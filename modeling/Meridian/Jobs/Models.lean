import Mathlib.Tactic.Common

/-!
# Job statuses

The statuses of a job and the transitions between them, from `backend/app/jobs/models.py`.

## Main definitions

* `Meridian.Jobs.JobStatus`: the statuses.
* `Meridian.Jobs.JobStatus.validTransitions`: the table `_VALID_TRANSITIONS`.

## Main results

* `Meridian.Jobs.JobStatus.validTransitions_eq_nil_iff`: the terminal statuses are those without
  transitions.
* `Meridian.Jobs.JobStatus.rank_lt_of_valid`: every transition goes up in rank, so no path in the
  table returns to a status.
* `Meridian.Jobs.JobStatus.valid_of_rank_le`: a transition stays valid while the job has not become
  terminal.
-/

namespace Meridian.Jobs

/-- `JobStatus`. -/
inductive JobStatus
  | pending
  | running
  | succeeded
  | failed
  | cancelled
  | expired
  deriving DecidableEq

namespace JobStatus

/-- `_VALID_TRANSITIONS`. -/
def validTransitions : JobStatus → List JobStatus
  | pending => [running, failed, cancelled, expired]
  | running => [succeeded, failed, cancelled, expired]
  | succeeded => []
  | failed => []
  | cancelled => []
  | expired => []

/-- `validate_job_transition`: whether it returns. -/
def validateTransition (current next : JobStatus) : Bool := current.validTransitions.contains next

/-- `is_terminal_status`. -/
def isTerminal : JobStatus → Bool
  | succeeded | failed | cancelled | expired => true
  | pending | running => false

/-- How far a job with the status has come. -/
def rank : JobStatus → ℕ
  | pending => 0
  | running => 1
  | succeeded | failed | cancelled | expired => 2

variable {s t u : JobStatus}

/-- The terminal statuses are those without transitions. -/
theorem validTransitions_eq_nil_iff : s.validTransitions = [] ↔ s.isTerminal = true := by
  cases s <;> decide

theorem validateTransition_iff : s.validateTransition t = true ↔ t ∈ s.validTransitions := by
  simp [validateTransition]

theorem rank_le_two (s : JobStatus) : s.rank ≤ 2 := by
  cases s <;> decide

/-- Every transition goes up in rank. -/
theorem rank_lt_of_valid (h : t ∈ s.validTransitions) : s.rank < t.rank := by
  cases s <;> cases t <;> revert h <;> decide

theorem isTerminal_eq_false_of_valid (h : t ∈ s.validTransitions) : s.isTerminal = false := by
  cases hs : s.isTerminal with
  | false => rfl
  | true => simp [validTransitions_eq_nil_iff.mpr hs] at h

/-- A transition that was valid for `s` is valid for, or repeats, a status `u` that has come at
least as far and is not terminal. -/
theorem valid_of_rank_le (h : t ∈ s.validTransitions) (hu : s.rank ≤ u.rank)
    (hterm : u.isTerminal = false) : t = u ∨ t ∈ u.validTransitions := by
  cases s <;> cases t <;> cases u <;> revert h hu hterm <;> decide

end JobStatus

end Meridian.Jobs
