import Meridian.Frontend.ChatState

/-!
# Local actions on a response

`frontend/src/response-model.js`: what an action of the panel does to a response, with the guards of
a confirmation. `Date.parse` is a parameter whose `NaN` is none; a comparison with it is false.

## Main definitions

* `Meridian.Frontend.ResponseModel.buildActionResult`: the response and the notice after an action.
* `Meridian.Frontend.ResponseModel.Confirms`: the guards of a confirmation but the expiry.
* `Meridian.Frontend.ResponseModel.FailsClosed`: a write is submitted only if it is allowed.
* `Meridian.Frontend.ResponseModel.Overlooked`: an expiry that the guard does not see.

## Main results

* `Meridian.Frontend.ResponseModel.nextResponse_buildActionResult`: when a write is submitted.
* `Meridian.Frontend.ResponseModel.fails_closed_iff`: an action fails closed exactly if no expiry of
  a confirmation that passes the other guards is overlooked.
* `Meridian.Frontend.ResponseModel.expired_card_submits`: a confirmation whose card has expired.
-/

namespace Meridian.Frontend.ResponseModel

/-! ### Data -/

/-- `Date.parse`: the time of a text in milliseconds, or none. An empty text has none. -/
structure DateParse where
  parse : String → Option ℤ
  parse_empty : parse "" = none

/-- A component with a message. -/
structure MessageBlock where
  componentId : String
  title : Option String := none
  body : Option String
  tone : String

/-- What is read of a field of a card. -/
structure Field where
  key : String
  value : Option String

/-- What is read of a component with a confirmation. -/
structure ConfirmationCard where
  componentId : String
  actionName : String
  confirmationToken : Option String
  expiresAt : Option String
  fields : List Field

/-- A component of a response; the content of those that no function here reads is left out. -/
inductive Component
  | messageBlock (block : MessageBlock)
  | confirmationCard (card : ConfirmationCard)
  | metricCard (componentId : String)
  | table (componentId : String)
  | timeline (componentId : String)

/-- What is read of an action. -/
structure Action where
  actionId : String
  actionType : String
  enabled : Option Bool := none
  disabledReason : Option String := none
  confirmationToken : Option String := none
  confirmationExpiresAt : Option String := none
  idempotencyKey : Option String := none

/-- `policy` of a response. -/
structure Policy where
  permissionContextApplied : Bool
  sensitiveFieldsRedacted : Bool
  writeConfirmationRequired : Bool
  denialReasonClass : String

/-- `audit` of a response. -/
structure Audit where
  actorRole : String
  officeScope : String
  toolPath : List String
  responseGeneratedAt : String

/-- A response. -/
structure Response where
  contractVersion : String
  responseId : String
  requestId : String
  traceId : String
  intentClass : String
  status : String
  summary : String
  followUpPrompt : Option String
  components : Option (List Component)
  actions : List Action
  policy : Policy
  audit : Audit

/-- `FIXTURE_RENDER_TIME`. -/
def fixtureRenderTime : String := "2026-03-14T00:00:00-05:00"

/-- `makeResponse`. -/
def makeResponse (id intentClass status summary : String) (components : List Component)
    (actions : List Action) (denialReasonClass : String) (writeConfirmationRequired : Bool)
    (toolPath : List String) : Response where
  contractVersion := "0.1.0"
  responseId := "resp-" ++ id
  requestId := "req-" ++ id
  traceId := "trace-" ++ id
  intentClass := intentClass
  status := status
  summary := summary
  followUpPrompt := none
  components := some components
  actions := actions
  policy := {
    permissionContextApplied := true
    sensitiveFieldsRedacted := true
    writeConfirmationRequired := writeConfirmationRequired
    denialReasonClass := denialReasonClass }
  audit := {
    actorRole := "broker"
    officeScope := "memphis"
    toolPath := toolPath
    responseGeneratedAt := "2026-03-14T09:00:00Z" }

/-! ### Actions -/

/-- `isExpired`. -/
def isExpired (dates : DateParse) (dateTime referenceTime : String) : Bool :=
  match dates.parse dateTime, dates.parse referenceTime with
  | some time, some reference => decide (time ≤ reference)
  | _, _ => false

/-- The card of a component of its type. -/
def Component.card? : Component → Option ConfirmationCard
  | confirmationCard card => some card
  | _ => none

/-- `getConfirmationCard`. -/
def getConfirmationCard (response : Response) : Option ConfirmationCard :=
  response.components.bind (·.findSome? Component.card?)

/-- `getStaleConfirmationNotice`. -/
def getStaleConfirmationNotice (expiresAt : Option String) : MessageBlock where
  componentId := "msg-stale-confirmation"
  body :=
    match expiresAt.filter (· ≠ "") with
    | some expiresAt => some ("Confirmation expired at " ++ expiresAt ++
        ". Refresh booking context before any write execution.")
    | none => some "Confirmation expired. Refresh booking context before any write execution."
  tone := "warning"

/-- `getActionInteractivity`: its result. -/
structure ActionState where
  disabled : Bool
  reason : Option String

/-- `getActionInteractivity`. -/
def getActionInteractivity (action : Action) (confirmationExpired : Bool) : ActionState :=
  if confirmationExpired then
    ⟨true, (getStaleConfirmationNotice action.confirmationExpiresAt).body⟩
  else if action.enabled = some false then
    ⟨true, some (action.disabledReason.getD "Action disabled by the server.")⟩
  else ⟨false, none⟩

/-- `buildSubmittedResponse`. -/
def buildSubmittedResponse (response : Response) (confirmationCard : ConfirmationCard) :
    Response :=
  let quoteField := confirmationCard.fields.find? (·.key = "quote_id")
  makeResponse (response.responseId ++ "-submitted") "write_submitted" "submitted"
    "Booking confirmation passed review and moved into write execution."
    [.messageBlock {
      componentId := "msg-booking-submitted"
      title := some "Booking submitted"
      body := some ("Submitted " ++ confirmationCard.actionName ++ " for quote " ++
        (quoteField.bind (·.value)).getD "unknown" ++ " with the current confirmation token.")
      tone := "informational" }]
    [] "none" false [confirmationCard.actionName]

/-- `buildActionResult`: its result. -/
structure ActionResult where
  nextResponse : Response
  actionNotice : Option MessageBlock

/-- The expiry that an action is held to. -/
def actionExpiry (action : Action) (confirmationCard : Option ConfirmationCard) : Option String :=
  action.confirmationExpiresAt.or (confirmationCard.bind (·.expiresAt))

/-- `confirmationExpired` as `buildActionResult` passes it. -/
def confirmationExpired (dates : DateParse) (action : Action)
    (confirmationCard : Option ConfirmationCard) (referenceTime : String) : Bool :=
  (actionExpiry action confirmationCard).any fun expiry =>
    decide (expiry ≠ "") && isExpired dates expiry referenceTime

/-- `buildActionResult`. -/
def buildActionResult (dates : DateParse) (action : Action) (response : Response)
    (referenceTime : String) : ActionResult :=
  let confirmationCard := getConfirmationCard response
  let actionState := getActionInteractivity action
    (confirmationExpired dates action confirmationCard referenceTime)
  let kept (componentId body tone : String) : ActionResult :=
    ⟨response, some { componentId := componentId, body := some body, tone := tone }⟩
  if actionState.disabled then
    ⟨response, some {
      componentId := "msg-action-disabled-" ++ action.actionId
      body := actionState.reason
      tone := "warning" }⟩
  else if action.actionType = "confirm_booking" then
    match confirmationCard with
    | none => kept "msg-action-confirm-missing"
        "Confirmation context missing. Refresh booking context before any write execution."
        "warning"
    | some card =>
      if ¬ hasText action.idempotencyKey then kept "msg-action-confirm-idempotency-missing"
        "Idempotency key missing. Refresh booking context before any write execution." "warning"
      else if ¬ hasText action.confirmationToken ∨
          action.confirmationToken ≠ card.confirmationToken then
        kept "msg-action-confirm-token-mismatch"
          "Confirmation token mismatch. Refresh booking context before any write execution."
          "warning"
      else ⟨buildSubmittedResponse response card, none⟩
  else if action.actionType = "cancel_booking" then
    kept "msg-action-cancel" "Booking confirmation cleared. No write executed." "informational"
  else if action.actionType = "request_refinement" then
    kept "msg-action-refine" "Refinement requested. Narrow the Memphis query and resubmit."
      "informational"
  else if action.actionType = "open_details" then
    kept "msg-action-details" "Detail request captured for the selected Memphis result."
      "informational"
  else ⟨response, none⟩

/-! ### Guards -/

/-- The guards of a confirmation but the expiry. -/
structure Confirms (action : Action) (card : ConfirmationCard) : Prop where
  isConfirm : action.actionType = "confirm_booking"
  enabled : action.enabled ≠ some false
  hasKey : hasText action.idempotencyKey = true
  hasToken : hasText action.confirmationToken = true
  sameToken : action.confirmationToken = card.confirmationToken

/-- The expiry is a date, and not at or before the reference time. -/
def InDate (dates : DateParse) (referenceTime expiry : String) : Prop :=
  ∃ time, dates.parse expiry = some time ∧
    ∀ reference, dates.parse referenceTime = some reference → reference < time

/-- All that the write needs: the guards, and every expiry that is present in date. -/
def Allowed (dates : DateParse) (action : Action) (response : Response) (referenceTime : String) :
    Prop :=
  ∃ card, getConfirmationCard response = some card ∧ Confirms action card ∧
    ∀ expiry, action.confirmationExpiresAt = some expiry ∨ card.expiresAt = some expiry →
      InDate dates referenceTime expiry

/-- The response is returned unchanged, or the write is allowed and submitted. -/
def FailsClosed (dates : DateParse) (action : Action) (response : Response)
    (referenceTime : String) : Prop :=
  (buildActionResult dates action response referenceTime).nextResponse = response ∨
    (buildActionResult dates action response referenceTime).nextResponse.intentClass =
        "write_submitted" ∧
      Allowed dates action response referenceTime

/-- The expiry that is used is no date, or the action has one in date and the card, which is then
not looked at, has one that is not. -/
def Overlooked (dates : DateParse) (referenceTime : String) (own card : Option String) : Prop :=
  match own with
  | some own => dates.parse own = none ∨
      InDate dates referenceTime own ∧
        ∃ expiry, card = some expiry ∧ ¬ InDate dates referenceTime expiry
  | none => ∃ expiry, card = some expiry ∧ dates.parse expiry = none

variable {dates : DateParse} {action : Action} {response : Response} {card : ConfirmationCard}
  {referenceTime expiry : String}

theorem getActionInteractivity_disabled_iff {confirmationExpired : Bool} :
    (getActionInteractivity action confirmationExpired).disabled = true ↔
      confirmationExpired = true ∨ action.enabled = some false := by
  unfold getActionInteractivity
  split_ifs with hexpired henabled
  · exact iff_of_true rfl (.inl hexpired)
  · exact iff_of_true rfl (.inr henabled)
  · exact iff_of_false id (not_or.mpr ⟨hexpired, henabled⟩)

/-- **When a write is submitted.** The response is submitted if all guards of a confirmation pass
and the expiry that is used has not passed, and else it is unchanged. -/
theorem nextResponse_buildActionResult (dates : DateParse) (action : Action) (response : Response)
    (referenceTime : String) :
    (∃ card, getConfirmationCard response = some card ∧ Confirms action card ∧
        confirmationExpired dates action (some card) referenceTime = false ∧
        (buildActionResult dates action response referenceTime).nextResponse =
          buildSubmittedResponse response card) ∨
      (∀ card, getConfirmationCard response = some card → Confirms action card →
        confirmationExpired dates action (some card) referenceTime = true) ∧
        (buildActionResult dates action response referenceTime).nextResponse = response := by
  unfold buildActionResult
  cases hcard : getConfirmationCard response with
  | none =>
    refine .inr ⟨nofun, ?_⟩
    dsimp only
    split_ifs <;> rfl
  | some card =>
    dsimp only
    split_ifs with hdisabled hconfirm hkey htoken
    · refine .inr ⟨?_, rfl⟩
      rintro card' ⟨⟩ hguards
      exact (getActionInteractivity_disabled_iff.mp hdisabled).resolve_right hguards.enabled
    · refine .inr ⟨?_, rfl⟩
      rintro card' ⟨⟩ hguards
      exact absurd htoken (not_or.mpr ⟨not_not.mpr hguards.hasToken, not_not.mpr hguards.sameToken⟩)
    · rw [getActionInteractivity_disabled_iff, not_or] at hdisabled
      obtain ⟨hnone, hsame⟩ := not_or.mp htoken
      exact .inl ⟨card, rfl, ⟨hconfirm, hdisabled.2, hkey, not_not.mp hnone, not_not.mp hsame⟩,
        Bool.eq_false_iff.mpr hdisabled.1, rfl⟩
    · refine .inr ⟨?_, rfl⟩
      rintro card' ⟨⟩ hguards
      exact absurd hguards.hasKey hkey
    all_goals
      refine .inr ⟨?_, rfl⟩
      rintro card' ⟨⟩ hguards
      exact absurd hguards.isConfirm hconfirm

/-! ### Expiries -/

theorem isExpired_eq_false_iff :
    isExpired dates expiry referenceTime = false ↔
      dates.parse expiry = none ∨ InDate dates referenceTime expiry := by
  unfold isExpired InDate
  cases dates.parse expiry with
  | none => simp
  | some time =>
    cases dates.parse referenceTime with
    | none => simp
    | some reference => simp

/-- An empty expiry, which is taken for none, is no date either. -/
theorem confirmationExpired_eq (confirmationCard : Option ConfirmationCard) :
    confirmationExpired dates action confirmationCard referenceTime =
      (actionExpiry action confirmationCard).any (isExpired dates · referenceTime) := by
  unfold confirmationExpired
  congr 1
  funext expiry
  by_cases hempty : expiry = ""
  · have hnone : isExpired dates "" referenceTime = false :=
      isExpired_eq_false_iff.mpr (.inl dates.parse_empty)
    rw [hempty, hnone, Bool.and_false]
  · rw [decide_eq_true hempty, Bool.true_and]

theorem not_inDate_of_parse (h : dates.parse expiry = none) :
    ¬ InDate dates referenceTime expiry := by
  rintro ⟨time, htime, -⟩
  rw [h] at htime
  cases htime

/-- The expiry that is used has not passed although one that is present is not in date, exactly if
it is overlooked. -/
theorem overlooked_iff :
    Overlooked dates referenceTime action.confirmationExpiresAt card.expiresAt ↔
      confirmationExpired dates action (some card) referenceTime = false ∧
        ¬ ∀ expiry, action.confirmationExpiresAt = some expiry ∨ card.expiresAt = some expiry →
          InDate dates referenceTime expiry := by
  rw [confirmationExpired_eq, actionExpiry, Option.bind_some]
  cases action.confirmationExpiresAt with
  | none =>
    cases card.expiresAt with
    | none => simp [Overlooked]
    | some expiry =>
      have hunread : dates.parse expiry = none → ¬ InDate dates referenceTime expiry :=
        not_inDate_of_parse
      simp only [Overlooked, isExpired_eq_false_iff, Option.none_or, Option.any_some,
        Option.some.injEq, exists_eq_left', reduceCtorEq, false_or, forall_eq']
      tauto
  | some own =>
    have hunread : dates.parse own = none → ¬ InDate dates referenceTime own :=
      not_inDate_of_parse
    simp only [Overlooked, isExpired_eq_false_iff, Option.some_or, Option.any_some,
      Option.some.injEq, or_imp, forall_and, forall_eq', not_and_or, not_forall, exists_prop]
    tauto

/-! ### Failing closed -/

/-- The submitted response has an id of its own. -/
theorem buildSubmittedResponse_ne : buildSubmittedResponse response card ≠ response := by
  intro hsame
  have hlength : ("resp-" ++ (response.responseId ++ "-submitted")).length =
      response.responseId.length :=
    congrArg (fun response : Response => response.responseId.length) hsame
  rw [String.length_append, String.length_append] at hlength
  have hresp : "resp-".length = 5 := rfl
  omega

/-- A confirmation that passes the other guards with an overlooked expiry is submitted, and it is
not allowed. -/
theorem submits_of_overlooked (hcard : getConfirmationCard response = some card)
    (hguards : Confirms action card)
    (hover : Overlooked dates referenceTime action.confirmationExpiresAt card.expiresAt) :
    (buildActionResult dates action response referenceTime).nextResponse =
        buildSubmittedResponse response card ∧
      ¬ FailsClosed dates action response referenceTime := by
  obtain ⟨hexpired, hpresent⟩ := overlooked_iff.mp hover
  rcases nextResponse_buildActionResult dates action response referenceTime with
    ⟨card', hcard', -, -, hnext⟩ | ⟨hstopped, -⟩
  · obtain rfl := Option.some.inj (hcard.symm.trans hcard')
    refine ⟨hnext, ?_⟩
    rintro (hsame | ⟨-, card', hcard', -, hdates⟩)
    · exact buildSubmittedResponse_ne (hnext.symm.trans hsame)
    · obtain rfl := Option.some.inj (hcard.symm.trans hcard')
      exact hpresent hdates
  · rw [hstopped card hcard hguards] at hexpired
    cases hexpired

/-- **When a confirmation fails closed.** For every response, action and reference time, a write is
submitted only if it is allowed, and else the response is returned unchanged, exactly if no expiry
of a confirmation that passes the other guards is overlooked. -/
theorem fails_closed_iff (dates : DateParse) (action : Action) (response : Response)
    (referenceTime : String) :
    FailsClosed dates action response referenceTime ↔
      ∀ card, getConfirmationCard response = some card → Confirms action card →
        ¬ Overlooked dates referenceTime action.confirmationExpiresAt card.expiresAt := by
  constructor
  · intro hclosed card hcard hguards hover
    exact (submits_of_overlooked hcard hguards hover).2 hclosed
  · intro hseen
    rcases nextResponse_buildActionResult dates action response referenceTime with
      ⟨card, hcard, hguards, hexpired, hnext⟩ | ⟨-, hsame⟩
    · refine .inr ⟨by rw [hnext]; rfl, card, hcard, hguards, ?_⟩
      by_contra hpresent
      exact hseen card hcard hguards (overlooked_iff.mpr ⟨hexpired, hpresent⟩)
    · exact .inl hsame

/-- Three texts with their times. -/
def fixtureDates : DateParse where
  parse text := List.lookup text
    [("2026-03-15T23:59:00Z", 1773619140000), ("2026-03-12T08:30:00Z", 1773304200000),
      (fixtureRenderTime, 1773464400000)]
  parse_empty := by decide

/-- The confirmation of the fixtures with an expiry. -/
def fixtureAction (confirmationExpiresAt : String) : Action where
  actionId := "confirm-booking"
  actionType := "confirm_booking"
  enabled := some true
  confirmationToken := some "memphis-booking-token"
  confirmationExpiresAt := some confirmationExpiresAt
  idempotencyKey := some "book-88219-arrow-freight-2026-03-15-v1"

/-- The card of the fixtures with an expiry. -/
def fixtureCard (expiresAt : String) : ConfirmationCard where
  componentId := "confirm-booking"
  actionName := "booking_create_confirmed"
  confirmationToken := some "memphis-booking-token"
  expiresAt := some expiresAt
  fields := [⟨"quote_id", some "88219"⟩, ⟨"carrier", some "Arrow Freight"⟩,
    ⟨"pickup", some "Tuesday 09:00"⟩]

/-- The response of the fixtures that asks for a confirmation, with the card. -/
def fixtureResponse (card : ConfirmationCard) : Response :=
  makeResponse "confirm" "write_confirmation_required" "confirmation_required"
    "Booking is ready for broker confirmation." [.confirmationCard card] [] "none" true
    ["booking_create_prepare"]

/-- **A confirmation whose card has expired is submitted**, for the expiry of the action is the only
one looked at; so is one whose expiries are no dates. -/
theorem expired_card_submits :
    ((buildActionResult fixtureDates (fixtureAction "2026-03-15T23:59:00Z")
          (fixtureResponse (fixtureCard "2026-03-12T08:30:00Z")) fixtureRenderTime).nextResponse =
        buildSubmittedResponse (fixtureResponse (fixtureCard "2026-03-12T08:30:00Z"))
          (fixtureCard "2026-03-12T08:30:00Z") ∧
      ¬ FailsClosed fixtureDates (fixtureAction "2026-03-15T23:59:00Z")
          (fixtureResponse (fixtureCard "2026-03-12T08:30:00Z")) fixtureRenderTime) ∧
      ¬ FailsClosed fixtureDates (fixtureAction "soon")
          (fixtureResponse (fixtureCard "soon")) fixtureRenderTime := by
  have hnow : fixtureDates.parse fixtureRenderTime = some 1773464400000 := by decide
  have hlater : fixtureDates.parse "2026-03-15T23:59:00Z" = some 1773619140000 := by decide
  have hearlier : fixtureDates.parse "2026-03-12T08:30:00Z" = some 1773304200000 := by decide
  have hguards (own expiry : String) : Confirms (fixtureAction own) (fixtureCard expiry) :=
    ⟨rfl, by exact nofun, by rfl, by rfl, rfl⟩
  refine ⟨submits_of_overlooked rfl (hguards _ _) (.inr ⟨?_, "2026-03-12T08:30:00Z", rfl, ?_⟩),
    (submits_of_overlooked rfl (hguards _ _) (.inl (by decide))).2⟩
  · refine ⟨_, hlater, fun reference hreference => ?_⟩
    obtain rfl := Option.some.inj (hnow.symm.trans hreference)
    decide
  · rintro ⟨time, htime, hall⟩
    obtain rfl := Option.some.inj (hearlier.symm.trans htime)
    exact absurd (hall _ hnow) (by decide)

end Meridian.Frontend.ResponseModel
