import Meridian.Controller.Contract

/-!
# Routing a stage

How the controller decides after a stage, from `backend/app/controller/precedence.py` and
`ControllerRuntime.route_decision`: by the signals of the stage, or by the action that the caller
proposes where the precedence flag is off.

## Main definitions

* `Meridian.Controller.resolveControllerAction`: the decision by the signals.
* `Meridian.Controller.routeDecision`: the authoritative decision and the one it is compared with.

## Main results

* `Meridian.Controller.routeDecision_authoritative_valid_iff`: exactly when the authoritative
  decision meets the contract of a checkpoint.
-/

namespace Meridian.Controller

/-- `ControllerAction`. -/
inductive ControllerAction
  | continue
  | review
  | repair
  | abort
  | done
  | blocked
  | waitingUserApproval
  | aborted
  deriving DecidableEq

/-- The literal of a controller action. -/
def ControllerAction.text : ControllerAction → String
  | .continue => "continue"
  | .review => "review"
  | .repair => "repair"
  | .abort => "abort"
  | .done => "done"
  | .blocked => "blocked"
  | .waitingUserApproval => "waiting_user_approval"
  | .aborted => "aborted"

/-- `ReviewOutcome`. -/
inductive ReviewOutcome
  | none
  | approve
  | changesRequested
  | blocked
  deriving DecidableEq

/-- `ValidatorOutcome`. -/
inductive ValidatorOutcome
  | unknown
  | pass
  | fail
  deriving DecidableEq

/-- `ControllerSignals`. -/
structure ControllerSignals where
  reviewOutcome : ReviewOutcome := .none
  validatorOutcome : ValidatorOutcome := .unknown
  triageAbortRequested : Bool := false
  concreteFailure : Bool := false
  failureSignal : FailureSignal :=
    { kind := "none", severity := "none", source := "controller", details := none }

/-- `resolve_controller_action`. -/
def resolveControllerAction (signals : ControllerSignals) : ControllerDecision :=
  if signals.failureSignal.severity = "unsafe" then
    { action := "abort"
      reason := "unsafe_or_destructive_state"
      source := "triage" }
  else if signals.reviewOutcome = .approve ∧ !signals.concreteFailure then
    { action := "continue"
      reason := "review_approved_safe_to_continue"
      source := "review" }
  else if signals.validatorOutcome = .pass ∧ !signals.concreteFailure then
    { action := "continue"
      reason := "validator_passed_no_concrete_failure"
      source := "validator" }
  else if signals.reviewOutcome = .changesRequested then
    { action := "repair"
      reason := "review_requested_changes"
      source := "review" }
  else if signals.validatorOutcome = .fail ∨ signals.concreteFailure then
    { action := "repair"
      reason := "recoverable_failure_requires_repair"
      source := "controller" }
  else if signals.triageAbortRequested then
    { action := "review"
      reason := "triage_abort_demoted_until_safety_proven"
      source := "triage" }
  else
    { action := "review"
      reason := "insufficient_signal_default_review"
      source := "controller" }

/-- `ControllerRouteResult`. -/
structure ControllerRouteResult where
  authoritative : ControllerDecision
  legacyDecision : ControllerDecision
  newDecision : Option ControllerDecision
  decisionsDiffer : Bool
  differenceReason : String

/-- The arguments of `route_decision` apart from the session. -/
structure Route where
  stageName : String
  legacyAction : ControllerAction
  signals : ControllerSignals

/-- `route_decision`. -/
def routeDecision (controllerPrecedenceEnabled : Bool) (route : Route) : ControllerRouteResult :=
  let legacyDecision : ControllerDecision :=
    { action := route.legacyAction.text
      reason := "legacy_" ++ route.stageName ++ "_route"
      source := "controller" }
  if controllerPrecedenceEnabled then
    let newDecision := resolveControllerAction route.signals
    let decisionsDiffer := legacyDecision.action ≠ newDecision.action
    { authoritative := newDecision
      legacyDecision := legacyDecision
      newDecision := some newDecision
      decisionsDiffer := decisionsDiffer
      differenceReason :=
        if decisionsDiffer then "authoritative_action_changed_by_precedence"
        else "legacy_and_new_actions_match" }
  else
    { authoritative := legacyDecision
      legacyDecision := legacyDecision
      newDecision := none
      decisionsDiffer := false
      differenceReason := "precedence_flag_disabled" }

/-! ### The contract of a decision -/

/-- What the signals decide always meets the contract. -/
theorem resolveControllerAction_valid (signals : ControllerSignals) :
    (resolveControllerAction signals).Valid := by
  unfold resolveControllerAction
  split_ifs <;> exact ⟨by decide, by decide, by decide⟩

/-- **Which routes a checkpoint can hold.** The authoritative decision meets the contract exactly if
it is made by the signals or the proposed action is one that the contract knows. -/
theorem routeDecision_authoritative_valid_iff {precedence : Bool} {route : Route} :
    (routeDecision precedence route).authoritative.Valid ↔
      precedence = true ∨ route.legacyAction.text ∈ checkpointActions := by
  cases precedence with
  | true => exact iff_of_true (resolveControllerAction_valid route.signals) (.inl rfl)
  | false =>
    refine ⟨fun h => .inr h.action, fun h => ⟨h.resolve_left nofun, ?_, List.mem_cons_self⟩⟩
    exact fun hreason => by simp [routeDecision] at hreason

end Meridian.Controller
