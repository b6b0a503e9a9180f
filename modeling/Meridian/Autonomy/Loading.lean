import Meridian.Autonomy.Checkpoints

/-!
# The runtime's reader on every file

`load_checkpoint` of `ControllerRuntime` as it runs: it decodes the JSON that the validator has
taken with the `from_dict` methods, which may raise. That none of them does, on a file of any
content, makes it the function that the operations of the controller are stated with; and what it
returns is written and read back without a change.

## Main definitions

* `Meridian.Autonomy.LoadedResume`: the answer of `load_checkpoint`.
* `Meridian.Autonomy.runtimeLoadCheckpoint`: `load_checkpoint`.
* `Meridian.Autonomy.LoadedCheckpoint.written`: `_write_checkpoint`.

## Main results

* `Meridian.Autonomy.runtimeLoadCheckpoint_eq`: it returns what the model of the controller says.
* `Meridian.Autonomy.load_checkpoint_stable`: it returns on every file, and loads again what it has
  loaded, and all that meets the contract.
-/

namespace Meridian.Autonomy

open Foundations Controller

variable {F : Type}

/-! ### Reading and writing -/

/-- `ControllerResumeResult`, where the literal types of the checkpoint are not enforced. -/
structure LoadedResume where
  protectedCore : ProtectedCore
  decision : ControllerDecision
  checkpoint : Option LoadedCheckpoint

/-- The answer with a checkpoint whose terminal state is one of the literals. -/
def LoadedResume.of (result : ControllerResumeResult) : LoadedResume :=
  { protectedCore := result.protectedCore
    decision := result.decision
    checkpoint := result.checkpoint.map .of }

/-- The answer for a decoded checkpoint. -/
def LoadedCheckpoint.resumed (checkpoint : LoadedCheckpoint) : LoadedResume :=
  { protectedCore := checkpoint.protectedCore
    decision := checkpoint.controllerLastDecision
    checkpoint := some checkpoint }

/-- `load_checkpoint` of the runtime. -/
def runtimeLoadCheckpoint (settings : Settings) (py : PythonText F) (file : LoadedFile F) :
    Except LoadError LoadedResume :=
  if settings.controllerCheckpointsEnabled then
    match file with
    | .missing => .ok (.of (failSoft "checkpoint_missing_fail_soft"))
    | .unreadable => .ok (.of (failSoft "checkpoint_unreadable_fail_soft"))
    | .json payload =>
      if checkpointSchema.accepts (payload.toJson py) then
        LoadedCheckpoint.resumed <$> checkpointFromDict py payload
      else .ok (.of (failSoft "checkpoint_packet_invalid_fail_soft"))
  else .ok (.of (failSoft "checkpoint_flag_disabled"))

/-- `ControllerCheckpoint.to_dict`. -/
def LoadedCheckpoint.toDict (checkpoint : LoadedCheckpoint) : Json :=
  .obj
    [("checkpoint_id", .str checkpoint.checkpointId),
     ("checkpoint_version", .str checkpoint.checkpointVersion),
     ("created_at", .str checkpoint.createdAt),
     ("protected_core", checkpoint.protectedCore.toDict),
     ("compaction", checkpoint.compaction.toDict),
     ("validated_artifacts", strs checkpoint.validatedArtifacts),
     ("active_failure_signal", checkpoint.activeFailureSignal.toDict),
     ("controller_last_decision", checkpoint.controllerLastDecision.toDict),
     ("queue", (checkpoint.queue.map QueueState.toDict).getD .null),
     ("terminal_state", .strOrNull checkpoint.terminalState)]

/-- `_write_checkpoint`. -/
def LoadedCheckpoint.written (checkpoint : LoadedCheckpoint) : LoadedFile F :=
  .json (.ofJson checkpoint.toDict)

variable {settings : Settings} {py : PythonText F} {file : LoadedFile F}

/-! ### The reader returns -/

/-- **The reader of the runtime.** It returns on every file, and what the controller's model
says. -/
theorem runtimeLoadCheckpoint_eq : runtimeLoadCheckpoint settings py file =
    .ok (.of (Controller.loadCheckpoint settings (file.toFile py))) := by
  unfold runtimeLoadCheckpoint Controller.loadCheckpoint
  split_ifs
  · cases file with
    | missing => rfl
    | unreadable => rfl
    | json payload =>
      dsimp only [LoadedFile.toFile]
      split_ifs with haccepts
      · rw [checkpointFromDict_of_accepts haccepts]
        rfl
      · rfl
  · rfl

/-! ### What is written is read -/

/-- A checkpoint that the contract takes has one of the literals for a terminal state. -/
theorem LoadedCheckpoint.exists_of_accepts {checkpoint : LoadedCheckpoint}
    (h : checkpointSchema.accepts checkpoint.toDict = true) :
    ∃ typed, LoadedCheckpoint.of typed = checkpoint := by
  have hterminal :
      terminalStateSchema.accepts (checkpoint.toDict.getD "terminal_state") = true := by
    rw [checkpointSchema_eq] at h
    exact Schema.accepts_getD h (by decide) (by simp)
  have htext := text_ofText?_of_accepts hterminal
  have hget : (checkpoint.toDict.getD "terminal_state").toStr? = checkpoint.terminalState :=
    Json.toStr?_strOrNull checkpoint.terminalState
  rw [hget] at htext
  refine ⟨{ checkpoint with
    terminalState := checkpoint.terminalState.bind TerminalState.ofText? }, ?_⟩
  rw [LoadedCheckpoint.of, htext]

/-- What is written is the file that the controller's model writes. -/
theorem toFile_written (checkpoint : ControllerCheckpoint) :
    (LoadedCheckpoint.of checkpoint).written.toFile py = checkpoint.written := by
  have h : (LoadedCheckpoint.of checkpoint).written.toFile py =
      .json ((Loaded.ofJson checkpoint.toDict).toJson py) := rfl
  rw [h, Loaded.toJson_ofJson _ (integral_toDict checkpoint)]
  rfl

/-- With checkpoints, a checkpoint that meets the contract is read back. -/
theorem runtimeLoadCheckpoint_written {checkpoint : LoadedCheckpoint}
    (henabled : settings.controllerCheckpointsEnabled = true)
    (h : checkpointSchema.accepts checkpoint.toDict = true) :
    runtimeLoadCheckpoint settings py checkpoint.written = .ok checkpoint.resumed := by
  obtain ⟨typed, rfl⟩ := LoadedCheckpoint.exists_of_accepts h
  have haccepts : checkpointSchema.accepts typed.toDict = true := h
  rw [runtimeLoadCheckpoint_eq, toFile_written, ControllerCheckpoint.written,
    Controller.loadCheckpoint, if_pos henabled]
  simp only [haccepts, if_true, ControllerCheckpoint.fromDict_toDict]
  rfl

/-- A checkpoint that the runtime returns meets the contract. -/
theorem accepts_of_runtimeLoadCheckpoint {result : LoadedResume} {checkpoint : LoadedCheckpoint}
    (hload : runtimeLoadCheckpoint settings py file = .ok result)
    (hcheckpoint : result.checkpoint = some checkpoint) :
    settings.controllerCheckpointsEnabled = true ∧
      checkpointSchema.accepts checkpoint.toDict = true := by
  rw [runtimeLoadCheckpoint_eq, Except.ok.injEq] at hload
  subst hload
  obtain ⟨typed, htyped, rfl⟩ := Option.map_eq_some_iff.mp hcheckpoint
  exact ⟨enabled_of_loadCheckpoint htyped,
    typed.accepts_toDict_iff.mpr (loadCheckpoint_valid htyped)⟩

/-- **Loading is total and stable.** `load_checkpoint` returns on every file; a checkpoint that it
returns is written and loaded again without a change; and so is, with checkpoints enabled, every
checkpoint whose JSON form meets the contract. -/
theorem load_checkpoint_stable (settings : Settings) (py : PythonText F) :
    (∀ file, Returns (runtimeLoadCheckpoint settings py file)) ∧
    (∀ file result checkpoint, runtimeLoadCheckpoint settings py file = .ok result →
      result.checkpoint = some checkpoint →
      runtimeLoadCheckpoint settings py checkpoint.written = .ok checkpoint.resumed) ∧
    (settings.controllerCheckpointsEnabled = true → ∀ checkpoint : LoadedCheckpoint,
      checkpointSchema.accepts checkpoint.toDict = true →
      runtimeLoadCheckpoint settings py checkpoint.written = .ok checkpoint.resumed) := by
  refine ⟨fun file => ⟨_, runtimeLoadCheckpoint_eq⟩, fun file result checkpoint hload hresult => ?_,
    fun henabled checkpoint haccepts => runtimeLoadCheckpoint_written henabled haccepts⟩
  obtain ⟨henabled, haccepts⟩ := accepts_of_runtimeLoadCheckpoint hload hresult
  exact runtimeLoadCheckpoint_written henabled haccepts

end Meridian.Autonomy
