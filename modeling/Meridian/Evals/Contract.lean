import Meridian.Foundations.LoadedEquality

/-!
# The eval contract

`contracts/eval-test-schema.yaml` as far as a single case depends on it, and the validation of a
case in `evals/runner.py`.

## Main definitions

* `Meridian.Evals.evalContract`: the contract.
* `Meridian.Evals.validateEvalCase`: the validation.

## Main results

* `Meridian.Evals.assertions_of_validateEvalCase`: the assertions of a valid case are strings of the
  catalog.
-/

namespace Meridian.Evals

open Foundations

variable {F : Type}

/-! ### Values -/

/-- The members of a `dict`. -/
abbrev Fields (F : Type) := List (String × Loaded F)

/-- The exceptions of the runner. -/
inductive EvalError
  | valueError (message : String)
  | attributeError
  | typeError
  | overflowError
  deriving DecidableEq

/-- `fields.get(name)`. -/
def get (fields : Fields F) (name : String) : Loaded F := (fields.lookup name).getD .none

/-- The value if it is a `dict`. -/
def dict? : Loaded F → Option (Fields F)
  | .dict fields => some fields
  | _ => none

/-- The value if it is a string. -/
def str? : Loaded F → Option String
  | .str s => some s
  | _ => none

/-- `value in {...}` for a set of strings, which hashes the value. -/
def inTexts (value : Loaded F) (texts : List String) : Except EvalError Bool :=
  match value with
  | .str s => .ok (s ∈ texts)
  | .list _ | .dict _ => .error .typeError
  | _ => .ok false

/-! ### The contract -/

/-- A scenario of the catalog. -/
structure Scenario where
  scenarioId : String
  assertions : List String

/-- What the contract says about a case. -/
structure EvalContract where
  endToEndRead : ℚ
  requiredCaseFields : List String
  allowedActorRoles : List String
  allowedIntentClasses : List String
  allowedGateResults : List String
  scenarioCatalog : List Scenario

/-- `contracts/eval-test-schema.yaml`. -/
def evalContract : EvalContract where
  endToEndRead := 500
  requiredCaseFields :=
    ["scenario_id", "intent_class", "actor_role", "prompt", "expected_gate", "expected_tool_path",
     "expected_response_components", "assertions"]
  allowedActorRoles := ["broker"]
  allowedIntentClasses :=
    ["read_pending", "read_result", "read_denied", "write_confirmation_required",
     "write_submitted", "write_denied"]
  allowedGateResults := ["allow", "deny", "confirmation_required"]
  scenarioCatalog :=
    [⟨"read_aggregation_broker",
      ["permission_context_applied", "bounded_date_range", "no_sensitive_fields",
       "latency_under_budget"]⟩,
     ⟨"read_async_refresh_pending",
      ["session_metadata_present", "async_job_id_present", "trace_linked_async_completion",
       "no_write_executed"]⟩,
     ⟨"read_stale_binding_broker",
      ["stale_binding_emitted", "session_metadata_present", "latency_under_budget"]⟩,
     ⟨"read_ranking_broker", ["bounded_limit", "no_sensitive_fields", "office_scope_enforced"]⟩,
     ⟨"read_multi_table_broker",
      ["office_scope_enforced", "no_cross_office_records", "no_sensitive_fields"]⟩,
     ⟨"deny_cross_office_broker",
      ["denial_reason_permission", "no_tool_execution", "no_cross_office_data"]⟩,
     ⟨"booking_confirmation_happy_path",
      ["confirmation_token_present", "no_write_without_confirmation", "audit_stub_present"]⟩,
     ⟨"booking_submit_after_confirmation",
      ["confirmation_token_validated", "resource_state_revalidated", "audit_record_present"]⟩,
     ⟨"booking_submit_idempotent_replay",
      ["confirmation_token_validated", "resource_state_revalidated", "audit_record_present",
       "idempotent_replay_linked", "action_outcome_timestamp_present"]⟩,
     ⟨"booking_deny_without_confirmation",
      ["denial_reason_unsupported_or_missing_confirmation", "no_write_executed"]⟩,
     ⟨"deny_sensitive_field_probe", ["denial_reason_sensitive_field", "no_sensitive_fields"]⟩]

/-- The assertions of the catalog. -/
def EvalContract.knownAssertions (contract : EvalContract) : List String :=
  contract.scenarioCatalog.flatMap Scenario.assertions

/-! ### Valid cases -/

/-- The error of a case that is not valid. -/
def invalidCase : EvalError := .valueError "eval contract validation failed"

/-- The condition, or the error of a case that is not valid. -/
def check (condition : Bool) : Except EvalError Unit :=
  if condition then .ok () else .error invalidCase

/-- The check of a member with an enumeration. -/
def checkAllowed (case : Fields F) (field : String) (allowedValues : List String) :
    Except EvalError Unit := do
  check (← inTexts (get case field) allowedValues)

/-- `_case_assertions`; those of a valid case are strings. -/
def caseAssertions (case : Fields F) : List String :=
  match get case "assertions" with
  | .list items => items.filterMap str?
  | _ => []

/-- `_validate_eval_case`. -/
def validateEvalCase (case : Fields F) : Except EvalError Unit := do
  check (evalContract.requiredCaseFields.all fun name => (case.lookup name).isSome)
  checkAllowed case "actor_role" evalContract.allowedActorRoles
  checkAllowed case "intent_class" evalContract.allowedIntentClasses
  checkAllowed case "expected_gate" evalContract.allowedGateResults
  match get case "assertions" with
  | .list items =>
    check (!items.isEmpty && items.all fun assertion => (str? assertion).isSome)
    check ((items.filterMap str?).all (· ∈ evalContract.knownAssertions))
  | _ => .error invalidCase

variable {case : Fields F}

theorem check_eq_ok {condition : Bool} {u : Unit} : check condition = .ok u ↔ condition = true := by
  rw [check]
  split_ifs with h
  · exact iff_of_true rfl h
  · exact iff_of_false nofun h

theorem filterMap_str? {items : List (Loaded F)}
    (h : items.all (fun x => (str? x).isSome) = true) :
    items = (items.filterMap str?).map .str := by
  induction items with
  | nil => rfl
  | cons x items ih =>
    simp only [List.all_cons, Bool.and_eq_true] at h
    cases x with
    | str s => exact congrArg (Loaded.str s :: ·) (ih h.2)
    | _ => exact absurd h.1 nofun

/-- The assertions of a valid case are those of its list, and the catalog knows them. -/
theorem assertions_of_validateEvalCase (h : validateEvalCase case = .ok ()) :
    get case "assertions" = .list ((caseAssertions case).map .str) ∧
      ∀ name ∈ caseAssertions case, name ∈ evalContract.knownAssertions := by
  simp only [validateEvalCase, bind_eq_ok] at h
  obtain ⟨-, -, -, -, -, -, -, -, h⟩ := h
  split at h
  · next items hitems =>
    obtain ⟨_, hstr, hknown⟩ := bind_eq_ok.mp h
    rw [check_eq_ok, Bool.and_eq_true] at hstr
    rw [check_eq_ok] at hknown
    have hcase : caseAssertions case = items.filterMap str? := by rw [caseAssertions, hitems]
    rw [hcase, hitems, ← filterMap_str? hstr.2]
    exact ⟨rfl, fun name hname => of_decide_eq_true (List.all_eq_true.mp hknown name hname)⟩
  · cases h

end Meridian.Evals
