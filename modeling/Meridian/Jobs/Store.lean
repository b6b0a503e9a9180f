import Meridian.Foundations.Execution
import Meridian.Jobs.Models
import Mathlib.Data.Int.Notation
import Mathlib.Order.Basic

/-!
# Concurrent operations on a job

The operations of `InMemoryJobStore` on one job, from `backend/app/jobs/store.py`. Each block under
the store's lock is one step; `refresh_job` calls `complete_job` while it holds the reentrant lock,
so that call belongs to its step. All other transitions read and validate the status in one block
and write the new one in a later block that does not look at the status again.

## Main definitions

* `Meridian.Jobs.JobRow`: the row of the job in `generation_jobs`.
* `Meridian.Jobs.Op`: the operations.
* `Meridian.Jobs.step`: one block of one call.
* `Meridian.Jobs.WriteOk`: the condition on the writing blocks.
* `Meridian.Jobs.DecidedOnce`: the statuses follow the table and a terminal status is final.

## Main results

* `Meridian.Jobs.decidedOnce_iff`: a run decides the fate of the job once exactly if every writing
  block finds a job that is not terminal, or repeats what is stored.
* `Meridian.Jobs.cancelled_job_runs_again`: a run that does not.
-/

namespace Meridian.Jobs

open Foundations

/-! ### Rows and operations -/

/-- What the store reads of a result payload: `str(result["response_id"])`, which may raise, and
`str(result.get("summary", ...))`. -/
structure PayloadReader (D : Type*) where
  responseId : D → Option String
  summary : D → String

/-- The row of a job, with decoded payloads. -/
structure JobRow (D : Type*) where
  jobStatus : JobStatus
  progressMessage : String
  completedResponseId : Option String
  preparedResultPayload : Option D
  resultPayload : Option D
  completionRefreshesRemaining : Option ℤ
  errorMessage : Option String
  failedAt : Option String
  completedAt : Option String
  updatedAt : String

/-- The operations on a job with their arguments. -/
inductive Op (D : Type*)
  | startJob (progressMessage : String)
  | failJob (errorMessage : String) (progressMessage : Option String)
  | cancelJob (progressMessage : String)
  | expireJob (progressMessage : String)
  | completeJob (result : D) (progressMessage : String)
  | refreshJob

/-- A store: how to read payloads, and `completion_refresh_polls`. -/
structure Config (D : Type*) where
  reader : PayloadReader D
  completionRefreshPolls : ℤ

variable {D : Type*}

/-- The status that an operation validates and writes; a refresh has none of its own. -/
def Op.target : Op D → Option JobStatus
  | startJob _ => some .running
  | failJob _ _ => some .failed
  | cancelJob _ => some .cancelled
  | expireJob _ => some .expired
  | completeJob _ _ => some .succeeded
  | refreshJob => none

/-- The `UPDATE` of `complete_job`. -/
def JobRow.completed (row : JobRow D) (result : D) (responseId progressMessage now : String) :
    JobRow D :=
  { row with
    jobStatus := .succeeded
    progressMessage := progressMessage
    completedResponseId := some responseId
    resultPayload := some result
    completionRefreshesRemaining := none
    errorMessage := none
    updatedAt := now
    completedAt := some now }

/-- The writing block of an operation that has read `job`. -/
def Op.write (config : Config D) (op : Op D) (job : JobRow D) (now : String) (row : JobRow D) :
    JobRow D :=
  match op with
  | startJob progressMessage =>
    { row with
      jobStatus := .running
      progressMessage := progressMessage
      completionRefreshesRemaining := some config.completionRefreshPolls
      updatedAt := now }
  | failJob errorMessage progressMessage =>
    { row with
      jobStatus := .failed
      progressMessage :=
        match progressMessage with
        | some message => if message = "" then job.progressMessage else message
        | none => job.progressMessage
      errorMessage := some errorMessage
      failedAt := some now
      completionRefreshesRemaining := none
      updatedAt := now }
  | cancelJob progressMessage =>
    { row with
      jobStatus := .cancelled
      progressMessage := progressMessage
      completionRefreshesRemaining := none
      updatedAt := now }
  | expireJob progressMessage =>
    { row with
      jobStatus := .expired
      progressMessage := progressMessage
      errorMessage := some "Job exceeded maximum execution time."
      completionRefreshesRemaining := none
      updatedAt := now }
  | completeJob result progressMessage =>
    match config.reader.responseId result with
    | some responseId => row.completed result responseId progressMessage now
    | none => row
  | refreshJob => row

/-- Whether the operation raises between its validation and its writing block: `complete_job` does
on a result without `response_id`. -/
def Op.raises (config : Config D) : Op D → Bool
  | completeJob result _ => (config.reader.responseId result).isNone
  | _ => false

/-! ### Steps -/

/-- What a call returns, unless it raises. -/
inductive Reply (D : Type*)
  | job (row : Option (JobRow D))
  | raised

/-- The next block of a call: the first `get_job`, the writing block or the block of a refresh with
the job that was read, the last `get_job`. -/
inductive Pc (D : Type*)
  | read
  | write (job : JobRow D)
  | refresh (job : JobRow D)
  | reread
  | done (reply : Reply D)

/-- The row of the job, if it exists, and the place of every call. -/
structure Board (ι D : Type*) where
  row : Option (JobRow D)
  pc : ι → Pc D

variable {ι : Type*} [DecidableEq ι] (config : Config D) (ops : ι → Op D)

/-- The first block on the stored row: read the job, and decide from its status how to go on. -/
def readBlock (op : Op D) : Option (JobRow D) → Pc D
  | none => .done (.job none)
  | some job =>
    match op.target with
    | none => if job.jobStatus = .running then .refresh job else .done (.job (some job))
    | some target =>
      if job.jobStatus.validateTransition target then
        if op.raises config then .done .raised else .write job
      else .done (.job (some job))

/-- The second block of a refresh that has read `job`: the row that it leaves, and how to go on. -/
def refreshBlock (job : JobRow D) (now : String) : Option (JobRow D) → Option (JobRow D) × Pc D
  | none => (none, .done (.job (some job)))
  | some row =>
    match row.preparedResultPayload with
    | none => (some row, .done (.job (some job)))
    | some prepared =>
      if row.completionRefreshesRemaining.getD 0 = 0 then
        if row.jobStatus.validateTransition .succeeded then
          match config.reader.responseId prepared with
          | none => (some row, .done .raised)
          | some responseId =>
            let row' := row.completed prepared responseId (config.reader.summary prepared) now
            (some row', .done (.job (some row')))
        else (some row, .done (.job (some row)))
      else
        (some { row with
            completionRefreshesRemaining := some (row.completionRefreshesRemaining.getD 0 - 1)
            updatedAt := now }, .reread)

/-- One block of the call `i`, at the time `now`. -/
def step (s : Board ι D) : ι × String → Option (Board ι D)
  | (i, now) =>
    match s.pc i with
    | .read => some { s with pc := Function.update s.pc i (readBlock config (ops i) s.row) }
    | .write job => some
        { row := s.row.map ((ops i).write config job now)
          pc := Function.update s.pc i .reread }
    | .refresh job => some
        { row := (refreshBlock config job now s.row).1
          pc := Function.update s.pc i (refreshBlock config job now s.row).2 }
    | .reread => some { s with pc := Function.update s.pc i (.done (.job s.row)) }
    | .done _ => none

/-! ### The property and the condition -/

/-- The status follows the table or stays. -/
def ValidStatus (s t : Board ι D) : Prop :=
  ∀ row row', s.row = some row → t.row = some row' →
    row'.jobStatus = row.jobStatus ∨ row'.jobStatus ∈ row.jobStatus.validTransitions

/-- A terminal status and the payload that goes with it stay. -/
def TerminalKept (s t : Board ι D) : Prop :=
  ∀ row, s.row = some row → row.jobStatus.isTerminal = true →
    ∃ row', t.row = some row' ∧ row'.jobStatus = row.jobStatus ∧
      row'.resultPayload = row.resultPayload

/-- The fate of the job is decided once: the stored statuses are a path in the table, and what is
stored with a terminal status is never changed. -/
structure DecidedOnce (s₀ : Board ι D) (labels : List (ι × String)) : Prop where
  path : Along (step config ops) (fun s _ t => ValidStatus s t) s₀ labels
  final : ∀ pre mid post s t, labels = pre ++ mid ++ post →
    exec (step config ops) s₀ pre = some s → exec (step config ops) s mid = some t →
      TerminalKept s t

/-- The operation writes the status, and the payload, that the row already has. -/
def Op.Repeats (op : Op D) (row : JobRow D) : Prop :=
  op.target = some row.jobStatus ∧
    ∀ result progressMessage, op = .completeJob result progressMessage →
      row.resultPayload = some result

/-- A writing block finds a job that is not terminal, or repeats what is stored. -/
def WriteOk (s : Board ι D) (l : ι × String) : Prop :=
  ∀ job row, s.pc l.1 = .write job → s.row = some row →
    row.jobStatus.isTerminal = false ∨ (ops l.1).Repeats row

/-! ### Writing blocks -/

variable {config ops} {s t s₀ : Board ι D} {l : ι × String} {labels : List (ι × String)}

section Write

variable {op : Op D} {job row : JobRow D} {now : String} {target : JobStatus}

theorem Op.write_jobStatus (ht : op.target = some target) (hr : op.raises config = false) :
    (op.write config job now row).jobStatus = target := by
  cases op with
  | completeJob result progressMessage =>
    simp only [Op.raises, Option.isNone_eq_false_iff, Option.isSome_iff_exists] at hr
    obtain ⟨responseId, hid⟩ := hr
    simp only [Op.write, hid]
    exact Option.some.inj ht
  | refreshJob => cases ht
  | _ => exact Option.some.inj ht

/-- Only `complete_job` changes the stored payload. -/
theorem Op.write_resultPayload_eq (hr : op.raises config = false) :
    (op.write config job now row).resultPayload = row.resultPayload ↔
      ∀ result progressMessage, op = .completeJob result progressMessage →
        row.resultPayload = some result := by
  cases op with
  | completeJob result progressMessage =>
    simp only [Op.raises, Option.isNone_eq_false_iff, Option.isSome_iff_exists] at hr
    obtain ⟨responseId, hid⟩ := hr
    have hwrite : ((Op.completeJob result progressMessage).write config job now row).resultPayload =
        some result := by
      simp only [Op.write, hid, JobRow.completed]
    rw [hwrite]
    constructor
    · rintro h _ _ ⟨rfl, rfl⟩
      exact h.symm
    · exact fun h => (h result progressMessage rfl).symm
  | refreshJob => exact ⟨fun _ _ _ => nofun, fun _ => rfl⟩
  | _ => exact ⟨fun _ _ _ => nofun, fun _ => rfl⟩

end Write

/-! ### What a step does to the row -/

/-- The row keeps its status and payload, or moves along the table. -/
def JobRow.Advances (row row' : JobRow D) : Prop :=
  (row'.jobStatus = row.jobStatus ∧ row'.resultPayload = row.resultPayload) ∨
    row'.jobStatus ∈ row.jobStatus.validTransitions

theorem JobRow.Advances.refl (row : JobRow D) : row.Advances row := .inl ⟨rfl, rfl⟩

theorem JobRow.Advances.rank_le {row row' : JobRow D} (h : row.Advances row') :
    row.jobStatus.rank ≤ row'.jobStatus.rank := by
  rcases h with h | h
  · exact Nat.le_of_eq (congrArg JobStatus.rank h.1.symm)
  · exact Nat.le_of_lt (JobStatus.rank_lt_of_valid h)

/-- What a call has found out before its writing block: it holds a job whose status admits the
target. -/
structure Op.Admitted (config : Config D) (op : Op D) (job : JobRow D) : Prop where
  no_raise : op.raises config = false
  exists_target : ∃ target, op.target = some target ∧ target ∈ job.jobStatus.validTransitions

/-- The first block goes on to a write only with an admitted job that is the stored one. -/
theorem readBlock_eq_write {op : Op D} {row : Option (JobRow D)} {job : JobRow D}
    (h : readBlock config op row = .write job) : row = some job ∧ op.Admitted config job := by
  cases row with
  | none => cases h
  | some row =>
    simp only [readBlock] at h
    split at h
    · split_ifs at h
    · next target htarget =>
      split_ifs at h with hvalid hraises
      obtain rfl := Pc.write.inj h
      exact ⟨rfl, Bool.eq_false_iff.mpr hraises, target, htarget,
        JobStatus.validateTransition_iff.mp hvalid⟩

/-- The block of a refresh advances the row, since it validates the status it overwrites. -/
theorem refreshBlock_advances (job : JobRow D) (now : String) (row : Option (JobRow D)) :
    Option.Rel JobRow.Advances row (refreshBlock config job now row).1 := by
  cases row with
  | none => exact .none
  | some row =>
    simp only [refreshBlock]
    split
    · exact .some (.refl row)
    · split_ifs with hzero hvalid
      · split
        · exact .some (.refl row)
        · exact .some (.inr (JobStatus.validateTransition_iff.mp hvalid))
      · exact .some (.refl row)
      · exact .some (.inl ⟨rfl, rfl⟩)

theorem refreshBlock_ne_write (job job' : JobRow D) (now : String) (row : Option (JobRow D)) :
    (refreshBlock config job now row).2 ≠ .write job' := by
  cases row with
  | none => nofun
  | some row =>
    simp only [refreshBlock]
    split
    · nofun
    · split_ifs
      · split
        · nofun
        · nofun
      · nofun
      · nofun

/-! ### Admitted jobs -/

/-- A step is a writing block, or advances the row and lets a call go on to a write only with the
stored job. -/
theorem step_cases {i : ι} {now : String} (h : step config ops s (i, now) = some t) :
    (∃ job, s.pc i = .write job ∧
      t = { row := s.row.map ((ops i).write config job now)
            pc := Function.update s.pc i .reread }) ∨
    ((∀ job, s.pc i ≠ .write job) ∧ Option.Rel JobRow.Advances s.row t.row ∧
      ∃ p, t.pc = Function.update s.pc i p ∧
        ∀ job, p = .write job → s.row = some job ∧ (ops i).Admitted config job) := by
  have hkeep : Option.Rel JobRow.Advances s.row s.row := by
    cases s.row with
    | none => exact .none
    | some row => exact .some (.refl row)
  cases hpc : s.pc i with
  | read =>
    simp only [step, hpc, Option.some.injEq] at h
    subst h
    exact .inr ⟨fun _ => nofun, hkeep, readBlock config (ops i) s.row, rfl,
      fun _ => readBlock_eq_write⟩
  | write job =>
    simp only [step, hpc, Option.some.injEq] at h
    exact .inl ⟨job, rfl, h.symm⟩
  | refresh job =>
    simp only [step, hpc, Option.some.injEq] at h
    subst h
    exact .inr ⟨fun _ => nofun, refreshBlock_advances job now s.row,
      (refreshBlock config job now s.row).2, rfl,
      fun job' h => absurd h (refreshBlock_ne_write job job' now s.row)⟩
  | reread =>
    simp only [step, hpc, Option.some.injEq] at h
    subst h
    exact .inr ⟨fun _ => nofun, hkeep, .done (.job s.row), rfl, fun _ => nofun⟩
  | done reply =>
    simp only [step, hpc, reduceCtorEq] at h

/-- Every call before its writing block holds an admitted job, and the stored job has come at least
as far. -/
def Validated (config : Config D) (ops : ι → Op D) (s : Board ι D) : Prop :=
  ∀ i job, s.pc i = .write job → (ops i).Admitted config job ∧
    ∃ row, s.row = some row ∧ job.jobStatus.rank ≤ row.jobStatus.rank

/-- The invariant survives the defective writes too: a target is never `pending`, and an admitted
job is at most `running`. -/
theorem Validated.step (hs : Validated config ops s) (h : step config ops s l = some t) :
    Validated config ops t := by
  obtain ⟨i, now⟩ := l
  intro j job' hj
  obtain ⟨job, hpc, rfl⟩ | ⟨-, hrel, p, hp, hwrite⟩ := step_cases h
  · have hji : j ≠ i := by
      rintro rfl
      simp only [Function.update_self, reduceCtorEq] at hj
    simp only [Function.update_of_ne hji] at hj
    obtain ⟨⟨hraise, target, htarget, hvalid⟩, row, hrow, -⟩ := hs i job hpc
    obtain ⟨hadm, -⟩ := hs j job' hj
    obtain ⟨target', -, hvalid'⟩ := hadm.exists_target
    refine ⟨hadm, _, congrArg (Option.map _) hrow, ?_⟩
    rw [Op.write_jobStatus htarget hraise]
    have hup := JobStatus.rank_lt_of_valid hvalid
    have hup' := JobStatus.rank_lt_of_valid hvalid'
    have htwo := target'.rank_le_two
    omega
  · have hold : ((ops j).Admitted config job') ∧
        ∃ row, s.row = some row ∧ job'.jobStatus.rank ≤ row.jobStatus.rank := by
      by_cases hji : j = i
      · subst hji
        rw [hp, Function.update_self] at hj
        obtain ⟨hrow, hadm⟩ := hwrite job' hj
        exact ⟨hadm, job', hrow, Nat.le_refl _⟩
      · rw [hp, Function.update_of_ne hji] at hj
        exact hs j job' hj
    obtain ⟨hadm, row, hrow, hle⟩ := hold
    rw [hrow] at hrel
    obtain ⟨row', hrow', hadv⟩ : ∃ row', t.row = some row' ∧ row.Advances row' := by
      cases ht : t.row with
      | none => rw [ht] at hrel; cases hrel
      | some row' => rw [ht] at hrel; cases hrel with | some hadv => exact ⟨row', rfl, hadv⟩
    exact ⟨hadm, row', hrow', Nat.le_trans hle hadv.rank_le⟩

/-! ### The exact condition -/

omit [DecidableEq ι] in
/-- A block that advances the row follows the table and keeps what is terminal. -/
theorem valid_and_kept_of_rel (h : Option.Rel JobRow.Advances s.row t.row) :
    ValidStatus s t ∧ TerminalKept s t := by
  constructor
  · intro row row' hrow hrow'
    rw [hrow, hrow'] at h
    cases h with
    | some hadv => exact hadv.imp And.left id
  · intro row hrow hterm
    rw [hrow] at h
    cases ht : t.row with
    | none => rw [ht] at h; cases h
    | some row' =>
      rw [ht] at h
      cases h with
      | some hadv =>
        rcases hadv with hsame | hvalid
        · exact ⟨row', rfl, hsame⟩
        · rw [JobStatus.isTerminal_eq_false_of_valid hvalid] at hterm
          cases hterm

/-- A step follows the table and keeps what is terminal exactly if, as a writing block, it finds
what it may overwrite. -/
theorem valid_and_kept_iff (hs : Validated config ops s) (h : step config ops s l = some t) :
    ValidStatus s t ∧ TerminalKept s t ↔ WriteOk ops s l := by
  obtain ⟨i, now⟩ := l
  obtain ⟨job, hpc, rfl⟩ | ⟨hpc, hrel, -⟩ := step_cases h
  · obtain ⟨⟨hraise, target, htarget, hvalid⟩, row, hrow, hle⟩ := hs i job hpc
    have hstatus : ((ops i).write config job now row).jobStatus = target :=
      Op.write_jobStatus htarget hraise
    have hrow' : s.row.map ((ops i).write config job now) =
        some ((ops i).write config job now row) := congrArg _ hrow
    constructor
    · rintro ⟨-, hkept⟩ job' row₁ hjob' hrow₁
      obtain rfl := Option.some.inj (hrow.symm.trans hrow₁)
      cases hterm : row.jobStatus.isTerminal with
      | false => exact .inl rfl
      | true =>
        obtain ⟨row', ht, hsame, hpayload⟩ := hkept row hrow hterm
        obtain rfl := Option.some.inj (hrow'.symm.trans ht)
        exact .inr ⟨htarget.trans (congrArg some (hstatus.symm.trans hsame)),
          (Op.write_resultPayload_eq hraise).mp hpayload⟩
    · intro hok
      rcases hok job row hpc hrow with hterm | ⟨hsame, hpayload⟩
      · refine ⟨fun row₁ row₂ h₁ h₂ => ?_, fun row₁ h₁ hterm₁ => ?_⟩
        · obtain rfl := Option.some.inj (hrow.symm.trans h₁)
          obtain rfl := Option.some.inj (hrow'.symm.trans h₂)
          rw [hstatus]
          exact JobStatus.valid_of_rank_le hvalid hle hterm
        · obtain rfl := Option.some.inj (hrow.symm.trans h₁)
          rw [hterm] at hterm₁
          cases hterm₁
      · obtain rfl : target = row.jobStatus := Option.some.inj (htarget.symm.trans hsame)
        refine valid_and_kept_of_rel ?_
        rw [hrow, Option.map_some]
        exact .some (.inl ⟨hstatus, (Op.write_resultPayload_eq hraise).mpr hpayload⟩)
  · exact ⟨fun _ job row hjob => absurd hjob (hpc job), fun _ => valid_and_kept_of_rel hrel⟩

omit [DecidableEq ι] in
theorem TerminalKept.refl (s : Board ι D) : TerminalKept s s :=
  fun row hrow _ => ⟨row, hrow, rfl, rfl⟩

omit [DecidableEq ι] in
theorem TerminalKept.trans {u : Board ι D} (h : TerminalKept s t) (h' : TerminalKept t u) :
    TerminalKept s u := by
  intro row hrow hterm
  obtain ⟨row', hrow', hstatus, hpayload⟩ := h row hrow hterm
  obtain ⟨row'', hrow'', hstatus', hpayload'⟩ := h' row' hrow' (hstatus ▸ hterm)
  exact ⟨row'', hrow'', hstatus'.trans hstatus, hpayload'.trans hpayload⟩

/-- The fate of the job is decided once exactly if every single step follows the table and keeps
what is terminal. -/
theorem decidedOnce_iff_along :
    DecidedOnce config ops s₀ labels ↔
      Along (step config ops) (fun s _ t => ValidStatus s t ∧ TerminalKept s t) s₀ labels := by
  rw [along_and]
  constructor
  · rintro ⟨hpath, hfinal⟩
    refine ⟨hpath, (along_iff_split labels s₀).mpr fun pre l post s t hl hs ht => ?_⟩
    exact hfinal pre [l] post s t (by rw [hl, List.append_assoc, List.singleton_append]) hs
      (exec_cons_eq_some.mpr ⟨t, ht, rfl⟩)
  · rintro ⟨hpath, hkept⟩
    refine ⟨hpath, fun pre mid post s t hl hs ht => ?_⟩
    rw [hl, List.append_assoc, along_append] at hkept
    exact along_relation TerminalKept TerminalKept.refl (fun _ _ _ => TerminalKept.trans)
      (along_append.mp (hkept.2 s hs)).1 ht

/-- **A job is decided once exactly if no write overwrites another's decision.** For any calls on a
job and any interleaving of their blocks, the stored statuses are a path in the table and a terminal
status keeps its payload, if and only if every writing block finds a job that is not terminal, or
repeats what is stored. -/
theorem decidedOnce_iff (h : ∀ i, s₀.pc i = .read) :
    DecidedOnce config ops s₀ labels ↔
      Along (step config ops) (fun s l _ => WriteOk ops s l) s₀ labels := by
  have hs₀ : Validated config ops s₀ := fun i job hi => by rw [h i] at hi; cases hi
  rw [decidedOnce_iff_along, along_iff_split, along_iff_split]
  have hpre {pre s} : exec (step config ops) s₀ pre = some s → Validated config ops s :=
    exec_invariant (Validated config ops) (fun _ _ _ => Validated.step) hs₀
  exact ⟨fun hkept pre l post s t hl hs ht =>
      (valid_and_kept_iff (hpre hs) ht).mp (hkept pre l post s t hl hs ht),
    fun hok pre l post s t hl hs ht =>
      (valid_and_kept_iff (hpre hs) ht).mpr (hok pre l post s t hl hs ht)⟩

/-! ### A start that overtakes a cancellation -/

/-- A store whose payloads are their own response ids. -/
def plainConfig : Config String :=
  { reader := { responseId := some, summary := id }, completionRefreshPolls := 2 }

/-- A new job, and calls that have not begun. -/
def pendingBoard : Board Bool String :=
  { row := some
      { jobStatus := .pending
        progressMessage := "Queued."
        completedResponseId := none
        preparedResultPayload := none
        resultPayload := none
        completionRefreshesRemaining := none
        errorMessage := none
        failedAt := none
        completedAt := none
        updatedAt := "2026-03-16T09:00:00Z" }
    pc := fun _ => .read }

/-- One call starts the job and one cancels it. -/
def startAndCancel : Bool → Op String
  | true => .startJob "Refreshing."
  | false => .cancelJob "Job cancelled."

/-- One call after the other decides the job once. -/
theorem decidedOnce_iff_in_turn :
    DecidedOnce plainConfig startAndCancel pendingBoard
      [(true, "t1"), (true, "t2"), (true, "t3"), (false, "t4"), (false, "t5"), (false, "t6")] := by
  have hwrite {s : Board Bool String} {l} (h : s.row.map (·.jobStatus.isTerminal) = some false) :
      WriteOk startAndCancel s l := by
    intro job row _ hrow
    rw [hrow] at h
    exact .inl (Option.some.inj h)
  exact (decidedOnce_iff fun _ => rfl).mpr <|
    .cons rfl (hwrite rfl) <| .cons rfl (hwrite rfl) <| .cons rfl (hwrite rfl) <|
    .cons rfl (hwrite rfl) <| .cons rfl (hwrite rfl) <| .cons rfl (fun _ _ => nofun) trivial

/-- **A cancelled job runs again.** Both calls read a pending job; the start writes after the
cancellation, and the stored status goes from `cancelled` to `running`. -/
theorem cancelled_job_runs_again :
    (∃ s t, exec (step plainConfig startAndCancel) pendingBoard
        [(true, "t1"), (false, "t2"), (false, "t3")] = some s ∧
      exec (step plainConfig startAndCancel) s [(true, "t4")] = some t ∧
      s.row.map JobRow.jobStatus = some .cancelled ∧ t.row.map JobRow.jobStatus = some .running) ∧
    ¬ DecidedOnce plainConfig startAndCancel pendingBoard
      [(true, "t1"), (false, "t2"), (false, "t3"), (true, "t4")] := by
  refine ⟨⟨_, _, rfl, rfl, rfl, rfl⟩, fun h => ?_⟩
  obtain ⟨row', hrow', hstatus, -⟩ :=
    h.final [(true, "t1"), (false, "t2"), (false, "t3")] [(true, "t4")] [] _ _ rfl rfl rfl _ rfl rfl
  obtain rfl := Option.some.inj hrow'
  cases hstatus

end Meridian.Jobs
