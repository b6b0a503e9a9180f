import Meridian.Api.Sessions
import Meridian.Gateway.IdempotentBooking
import Meridian.Gateway.SequentialBooking

/-!
# The confirmation of an action

`post_confirm_action` of `backend/app/api/routes/actions.py`: its checks, the payload it builds from
the result of the gateway, and whether the contract accepts that payload.

## Main definitions

* `Meridian.Api.confirmPayload`: the payload for a result.
* `Meridian.Api.postConfirmAction`: the endpoint.

## Main results

* `Meridian.Api.postConfirmAction_eq`: past its checks the endpoint answers what the builder makes
  of the payload.
* `Meridian.Api.confirmPayload_accepted_iff`: exactly when the builder accepts the payload.
-/

namespace Meridian.Api

open Foundations Gateway Gateway.World Responses

/-! ### The payload -/

/-- The random identifiers and the reading of the clock that a response contains. -/
structure Readings where
  responseHex : String
  requestHex : String
  traceHex : String
  now : UtcTime

/-- `ActiveResourceBinding.to_dict`. -/
def ActiveResourceBinding.toDict (resource : ActiveResourceBinding) : Json :=
  .obj
    [("resource_type", .str resource.resourceType.text),
     ("resource_id", .str resource.resourceId),
     ("resource_fingerprint", .str resource.resourceFingerprint)]

/-- The `policy` of a payload. -/
def policy (denialReasonClass : String) : Json :=
  .obj
    [("permission_context_applied", .bool true),
     ("sensitive_fields_redacted", .bool true),
     ("write_confirmation_required", .bool false),
     ("denial_reason_class", .str denialReasonClass)]

/-- The `audit` of a payload. -/
def audit (session : SessionState) (toolPath : List String) (now : UtcTime) : Json :=
  .obj
    [("actor_role", .str session.role),
     ("office_scope", .str session.officeId),
     ("tool_path", .arr (toolPath.map .str)),
     ("response_generated_at", .str (recordedAt now))]

/-- `_base_payload`. -/
def basePayload (session : SessionState) (intentClass status summary : String)
    (components : List Json) (toolPath : List String) (denialReasonClass : String)
    (readings : Readings) : List (String × Json) :=
  [("contract_version", .str "0.1.0"),
   ("response_id", .str ("resp_" ++ readings.responseHex)),
   ("request_id", .str ("req_" ++ readings.requestHex)),
   ("trace_id", .str ("trace_" ++ readings.traceHex)),
   ("session_id", .str session.sessionId),
   ("session_access_token", .str session.sessionAccessToken),
   ("conversation_scope", .str session.conversationScope),
   ("context_binding_state", .str session.contextBindingState),
   ("screen_sync_state", .str session.screenSyncState),
   ("active_resource", (session.activeResource.map ActiveResourceBinding.toDict).getD .null),
   ("job_id", .null),
   ("job_poll_token", .null),
   ("intent_class", .str intentClass),
   ("status", .str status),
   ("summary", .str summary),
   ("follow_up_prompt", .null),
   ("components", .arr components),
   ("actions", .arr []),
   ("policy", policy denialReasonClass),
   ("audit", audit session toolPath readings.now)]

/-- A message block with a title. -/
def messageBlock (componentId title body tone : String) : Json :=
  .obj
    [("component_id", .str componentId),
     ("component_type", .str "message_block"),
     ("title", .str title),
     ("body", .str body),
     ("tone", .str tone)]

/-- The payload of `post_confirm_action` for a result of the gateway. -/
def confirmPayload (session : SessionState) (actionName confirmationToken : String)
    (result : BookingResult) (readings : Readings) : List (String × Json) :=
  match result.status with
  | .denied denialReasonClass =>
    let summary :=
      "Booking confirmation denied: " ++ Text.replace denialReasonClass.text "_" " "
    basePayload session "write_denied" "denied" summary
      [messageBlock ("msg-action-denied-" ++ actionName) "Action denied" summary "critical"]
      [actionName] denialReasonClass.text readings
  | .submitted =>
    let quoteId := result.quoteId.getD "None"
    basePayload session "write_submitted" "submitted" ("Booking submitted for quote " ++ quoteId)
      [messageBlock "msg-booking-submitted" "Booking submitted"
        ("Submitted " ++ actionName ++ " for quote " ++ quoteId ++ " with confirmation token " ++
          .ofList (confirmationToken.toList.take 8) ++ "...") "informational"]
      [actionName] "none" readings

/-! ### The endpoint -/

/-- The members of a confirmation request, where a member that is present is a string. -/
structure ConfirmRequest where
  actionName : Option String
  confirmationToken : Option String
  idempotencyKey : Option String
  sessionId : Option String
  sessionAccessToken : Option String

/-- How the endpoint raises: an `HTTPException` or the `ValueError` of the builder. -/
inductive Failure
  | http (statusCode : ℕ) (detail : String)
  | valueError (message : String)

/-- The condition, or an `HTTPException`. -/
def require (condition : Prop) [Decidable condition] (statusCode : ℕ) (detail : String) :
    Except Failure Unit :=
  if condition then .ok () else .error (.http statusCode detail)

theorem require_eq_ok {condition : Prop} [Decidable condition] {statusCode : ℕ} {detail : String}
    {u : Unit} : require condition statusCode detail = .ok u ↔ condition := by
  rw [require]
  split_ifs with h
  · exact iff_of_true rfl h
  · exact iff_of_false nofun h

/-- The value, or an `HTTPException` if there is none. -/
def orRaise {α : Type*} (value : Option α) (statusCode : ℕ) (detail : String) : Except Failure α :=
  match value with
  | none => .error (.http statusCode detail)
  | some value => .ok value

/-- The value of a member, which must not be empty. -/
def required (value : Option String) (detail : String) : Except Failure String :=
  orRaise (value.filter (· ≠ "")) 400 detail

/-- The call of `execute_confirmed_booking` for an identity. -/
def TrustedIdentity.call (identity : TrustedIdentity)
    (actionName confirmationToken idempotencyKey : String) : Call where
  actionName := actionName
  confirmationToken := confirmationToken
  idempotencyKey := idempotencyKey
  actorBrokerId := identity.brokerId
  officeId := identity.officeId

/-- `post_confirm_action` for an identity that is validated, with what the gateway answers to a
call: a result or the text of a `ValueError`. -/
def postConfirmAction (store : SessionStore) (identity : TrustedIdentity)
    (executeWriteGateway : Call → Except String BookingResult) (request : ConfirmRequest)
    (readings : Readings) : Except Failure Json := do
  let actionName ← required request.actionName "unsupported action"
  require (actionName = "booking_create_confirmed") 400 "unsupported action"
  let confirmationToken ← required request.confirmationToken "confirmation_token is required"
  let idempotencyKey ← required request.idempotencyKey "idempotency_key is required"
  let sessionId ← required request.sessionId "session_id is required"
  let sessionAccessToken ← required request.sessionAccessToken "session_access_token is required"
  let session ← orRaise (store.sessions sessionId) 404 "unknown session"
  require (session.sessionAccessToken = sessionAccessToken) 404 "unknown session"
  require (session.brokerId = identity.brokerId ∧ session.officeId = identity.officeId) 403
    "session identity mismatch"
  let result ← (executeWriteGateway
    (identity.call actionName confirmationToken idempotencyKey)).mapError (.http 400)
  (buildResponseEnvelope
    (confirmPayload session actionName confirmationToken result readings)).mapError .valueError

/-! ### What the contract accepts -/

section MessageBlock

variable (id title body tone : String)

/-- The contract takes a message block with a text in one of its tones. -/
theorem accepts_messageBlock_iff :
    Schema.accepts messageBlockComponent (messageBlock id title body tone) = true ↔
      id ≠ "" ∧ body ≠ "" ∧ tone ∈ ["informational", "warning", "error"] := by
  have hbase : Schema.accepts componentBase (messageBlock id title body tone) = true ↔ id ≠ "" := by
    rw [componentBase, Schema.accepts_of_isOpen rfl]
    simp [Keyword.admits_type, Json.hasType, messageBlock, List.lookup_cons]
  have hrest : Schema.accepts
      [.type [.object], .required ["component_type", "body"],
        .property "component_type" [.const (.str "message_block")],
        .property "body" nonemptyString,
        .property "tone" (stringIn ["informational", "warning", "error"])]
      (messageBlock id title body tone) = true ↔
        body ≠ "" ∧ tone ∈ ["informational", "warning", "error"] := by
    rw [Schema.accepts_of_isOpen rfl]
    simp [Keyword.admits_type, Json.hasType, messageBlock, List.lookup_cons]
  -- Every member is declared by one of the two schemas.
  exact (accepts_component_iff rfl rfl).trans (and_congr hbase hrest)

theorem accepts_component_messageBlock {componentType : String} {members : List String}
    {properties : Schema} (h : "message_block" ≠ componentType) :
    Schema.accepts (component componentType members properties)
      (messageBlock id title body tone) = false :=
  component_rejects rfl h

/-- No other component takes a message block. -/
theorem accepts_oneOf_messageBlock_iff :
    Schema.accepts [.oneOf componentDefinitions] (messageBlock id title body tone) = true ↔
      id ≠ "" ∧ body ≠ "" ∧ tone ∈ ["informational", "warning", "error"] := by
  rw [← accepts_messageBlock_iff id title body tone, Schema.accepts_of_isOpen rfl]
  simp [componentDefinitions, accepts_component_messageBlock, tableComponent, metricCardComponent,
    timelineComponent, confirmationCardComponent, List.countP_cons]

end MessageBlock

variable {session : SessionState} {readings : Readings} {result : BookingResult}

theorem accepts_policy_iff (denialReasonClass : String) :
    Schema.accepts policySchema (policy denialReasonClass) = true ↔
      denialReasonClass ∈ ["permission", "sensitive_field", "unsupported_request", "stale_state",
        "query_safety", "none"] := by
  have hreason : Schema.accepts
      [.type [.string, .null],
       .enum
         [.str "permission", .str "sensitive_field", .str "unsupported_request",
          .str "stale_state", .str "query_safety", .str "none", .null]]
      (.str denialReasonClass) = true ↔
        denialReasonClass ∈ ["permission", "sensitive_field", "unsupported_request",
          "stale_state", "query_safety", "none"] := by
    rw [Schema.accepts_of_isOpen rfl]
    simp [Keyword.admits_type, Json.hasType]
  have hconst : Schema.accepts [.type [.boolean], .const (.bool true)] (.bool true) = true := rfl
  rw [policySchema, Schema.accepts_eq, ← hreason]
  simp [Keyword.closes, Keyword.declares, Keyword.admits_type, Json.hasType, List.lookup_cons,
    policy, hconst]

theorem accepts_activeResource_iff {resource : Option ActiveResourceBinding} :
    Schema.accepts activeResourceSchema
        ((resource.map ActiveResourceBinding.toDict).getD .null) = true ↔
      ∀ r ∈ resource, r.resourceId ≠ "" ∧ r.resourceFingerprint ≠ "" := by
  rw [activeResourceSchema, Schema.accepts_eq]
  cases resource with
  | none => exact iff_of_true rfl nofun
  | some resource =>
    have htype : resource.resourceType.text ∈ resourceTypes := by
      cases resource.resourceType <;> decide
    simp [Keyword.closes, Keyword.declares, Keyword.admits_type, Json.hasType, List.lookup_cons,
      ActiveResourceBinding.toDict, htype]

theorem accepts_audit_iff {toolPath : List String} {now : UtcTime} :
    Schema.accepts auditSchema (audit session toolPath now) = true ↔
      session.role = "broker" ∧ session.officeId ≠ "" ∧ ∀ tool ∈ toolPath, tool ≠ "" := by
  have htoolPath : Schema.accepts [.type [.array], .items nonemptyString]
      (.arr (toolPath.map .str)) = true ↔ ∀ tool ∈ toolPath, tool ≠ "" := by
    rw [Schema.accepts_of_isOpen rfl]
    simp [Keyword.admits_type, Json.hasType]
  rw [auditSchema, Schema.accepts_eq, ← htoolPath]
  simp [Keyword.closes, Keyword.declares, Keyword.admits_type, Json.hasType, List.lookup_cons,
    audit]

/-! ### The payloads of the endpoint -/

section BasePayload

variable {intentClass status summary : String} {components : List Json} {toolPath : List String}
  {denialReasonClass : String}

theorem exists_envelope_iff (hcomponents : components ≠ []) :
    (∃ envelope, buildResponseEnvelope (basePayload session intentClass status summary components
        toolPath denialReasonClass readings) = .ok envelope) ↔
      agentResponse.accepts (.obj (basePayload session intentClass status summary components
        toolPath denialReasonClass readings)) = true :=
  exists_buildResponseEnvelope_iff rfl rfl rfl (decide_eq_true hcomponents)

/-- The builder takes no payload with a component that the contract does not know. -/
theorem accepts_component_of_accepts {c : Json} (hc : c ∈ components)
    (h : agentResponse.accepts (.obj (basePayload session intentClass status summary components
      toolPath denialReasonClass readings)) = true) :
    Schema.accepts [.oneOf componentDefinitions] c = true := by
  have hproperty : Keyword.admits
      (.property "components" [.type [.array], .minItems 1, .items [.oneOf componentDefinitions]])
      (.obj (basePayload session intentClass status summary components toolPath denialReasonClass
        readings)) = true :=
    Schema.admits_of_accepts h (by simp [agentResponse])
  have hget : Json.get? "components" (.obj (basePayload session intentClass status summary
      components toolPath denialReasonClass readings)) = some (.arr components) := rfl
  rw [Keyword.admits_property, hget, Option.all_some, Schema.accepts_of_isOpen rfl] at hproperty
  simp only [List.all_cons, List.all_nil, Keyword.admits_items, Bool.and_eq_true,
    List.all_eq_true] at hproperty
  exact hproperty.2.2.1 c hc

end BasePayload

section Submitted

variable {summary id title body : String} {actionName : String}

/-- Of the conditionals, the one for a submitted write and the one for everything but a requested
confirmation apply. -/
theorem admits_intentConditionals :
    (Keyword.allOf intentConditionals).admits
      (.obj (basePayload session "write_submitted" "submitted" summary
        [messageBlock id title body "informational"] [actionName] "none" readings)) = true := by
  set payload := basePayload session "write_submitted" "submitted" summary
    [messageBlock id title body "informational"] [actionName] "none" readings with hpayload
  have hintent : payload.lookup "intent_class" = some (.str "write_submitted") := rfl
  have hsubmitted : Schema.accepts [statusIs "submitted", noActions, auditToolPath 1]
      (.obj payload) = true := by
    simp [Schema.accepts_of_isOpen, Keyword.isOpen, hpayload, basePayload, audit, List.lookup_cons,
      statusIs, noActions, auditToolPath, Keyword.admits_type, Json.hasType]
  have hother : Schema.accepts
      [.property "components" [.not [.contains confirmationCardComponent]],
       .property "actions"
         [.items
            [.allOf
               [actionButton,
                [.type [.object], .required ["action_type"],
                 .property "action_type"
                   [.enum [.str "open_details", .str "request_refinement"]]]]]],
       writeConfirmationRequired false] (.obj payload) = true := by
    have hcard : Schema.accepts confirmationCardComponent
        (messageBlock id title body "informational") = false :=
      accepts_component_messageBlock _ _ _ _ (by decide)
    simp [Schema.accepts_of_isOpen, Keyword.isOpen, hpayload, basePayload, policy, List.lookup_cons,
      writeConfirmationRequired, Keyword.admits_type, Json.hasType, hcard]
  rw [Keyword.admits_allOf, intentConditionals]
  have hconditional (condition consequence : Schema) :
      Schema.accepts [.ifThen condition consequence] (.obj payload) =
        (!Schema.accepts condition (.obj payload) ||
          Schema.accepts consequence (.obj payload)) := by
    rw [Schema.accepts_of_isOpen rfl, List.all_cons, List.all_nil, Bool.and_true,
      Keyword.admits_ifThen]
  simp [hconditional, accepts_memberIs hintent, hsubmitted, hother]

/-- A submission is accepted if the session's scope and office are. -/
theorem accepts_submitted_iff (h : session.WellFormed) (hsummary : summary ≠ "") (hid : id ≠ "")
    (hbody : body ≠ "") (hname : actionName ≠ "") :
    agentResponse.accepts
        (.obj (basePayload session "write_submitted" "submitted" summary
          [messageBlock id title body "informational"] [actionName] "none" readings)) = true ↔
      session.conversationScope ∈ conversationScopes ∧ session.officeId ≠ "" := by
  have hcomponents : Schema.accepts [.type [.array], .minItems 1,
      .items [.oneOf componentDefinitions]]
      (.arr [messageBlock id title body "informational"]) = true := by
    have hblock := (accepts_oneOf_messageBlock_iff id title body "informational").mpr
      ⟨hid, hbody, by decide⟩
    rw [Schema.accepts_of_isOpen rfl]
    simp [Keyword.admits_type, Json.hasType, hblock]
  have haudit : Schema.accepts auditSchema (audit session [actionName] readings.now) = true ↔
      session.officeId ≠ "" := by simp [accepts_audit_iff, h.role, hname]
  have hsessionId : Schema.accepts [.type [.string], .pattern (wordAfter "chat_s_")]
      (.str session.sessionId) = true := by
    rw [Schema.accepts_of_isOpen rfl]
    simp [Keyword.admits_type, Json.hasType, h.sessionId]
  have htoken : Schema.accepts [.type [.string, .null], .minLength 16]
      (.str session.sessionAccessToken) = true := by
    rw [Schema.accepts_of_isOpen rfl]
    simp [Keyword.admits_type, Json.hasType, h.sessionAccessToken]
  have hactions : Schema.accepts [.type [.array], .items actionButton] (.arr []) = true := by
    rw [Schema.accepts_of_isOpen rfl]
    simp [Keyword.admits_type, Json.hasType]
  have hbinding : session.contextBindingState ∈ ["bound", "partial", "stale", "missing"] :=
    (by decide : ["bound", "missing", "stale"] ⊆ ["bound", "partial", "stale", "missing"])
      h.contextBindingState
  have hversion : Schema.accepts [.type [.string], .const (.str "0.1.0")] (.str "0.1.0") = true :=
    rfl
  have hjobId : Schema.accepts [.type [.string, .null], .pattern (wordAfter "job_")] .null = true :=
    rfl
  have hjobPollToken : Schema.accepts [.type [.string, .null], .minLength 16] .null = true := rfl
  set payload := basePayload session "write_submitted" "submitted" summary
    [messageBlock id title body "informational"] [actionName] "none" readings with hpayload
  have hcloses (evaluated : List String) :
      agentResponse.all (Keyword.closes agentResponse evaluated (.obj payload)) = true := rfl
  have hconditionals : (Keyword.allOf intentConditionals).admits (.obj payload) = true :=
    admits_intentConditionals
  rw [Schema.accepts_eq, hcloses, Bool.and_true, agentResponse]
  simp only [List.all_cons, List.all_nil, hconditionals]
  simp [hpayload, basePayload, List.lookup_cons, h.screenSyncState, accepts_policy_iff,
    accepts_activeResource_iff.mpr h.activeResource, Keyword.admits_type, Json.hasType, hsummary,
    hcomponents, haudit, hsessionId, htoken, hactions, hbinding, hversion, hjobId, hjobPollToken]

end Submitted

variable {actionName confirmationToken : String}

/-- A denial is never accepted: its message block has a tone that the contract does not have. -/
theorem buildResponseEnvelope_denied {reason : DenialReasonClass}
    (hstatus : result.status = .denied reason) :
    ¬ ∃ envelope, buildResponseEnvelope (confirmPayload session actionName confirmationToken result
      readings) = .ok envelope := by
  simp only [confirmPayload, hstatus]
  rw [exists_envelope_iff (List.cons_ne_nil _ _)]
  intro haccepts
  have hblock := accepts_component_of_accepts List.mem_cons_self haccepts
  rw [accepts_oneOf_messageBlock_iff] at hblock
  exact absurd hblock.2.2 (by decide)

/-- A submission is accepted if the stored session fits the contract. -/
theorem buildResponseEnvelope_submitted_iff (h : session.WellFormed) (hname : actionName ≠ "")
    (hstatus : result.status = .submitted) :
    (∃ envelope, buildResponseEnvelope (confirmPayload session actionName confirmationToken result
        readings) = .ok envelope) ↔
      (∀ resource ∈ session.activeResource, resource.resourceType ≠ .session) ∧
        session.officeId ≠ "" := by
  simp only [confirmPayload, hstatus]
  rw [exists_envelope_iff (List.cons_ne_nil _ _), ← h.scope_mem_iff]
  exact accepts_submitted_iff h (by simp) (by simp) (by simp) hname

/-- **Which outcomes reach the caller.** For a stored session, the builder accepts the payload of
`post_confirm_action` exactly when the gateway's result is a submission, the active resource is not
of the type `session` and the office has a name. -/
theorem confirmPayload_accepted_iff {lower : String → String}
    {brokersForOffice : String → List String} {store : SessionStore} {sessionId : String}
    (hreach : Reachable (postChat lower brokersForOffice) .empty store)
    (hsession : store.sessions sessionId = some session) (confirmationToken : String)
    (result : BookingResult) (readings : Readings) :
    (∃ envelope, buildResponseEnvelope (confirmPayload session "booking_create_confirmed"
        confirmationToken result readings) = .ok envelope) ↔
      result.status = .submitted ∧
        (∀ resource ∈ session.activeResource, resource.resourceType ≠ .session) ∧
        session.officeId ≠ "" := by
  have hwf := wellFormed_of_reachable hreach hsession
  cases hstatus : result.status with
  | denied reason => simpa using buildResponseEnvelope_denied hstatus
  | submitted => simpa using buildResponseEnvelope_submitted_iff hwf (by decide) hstatus

section Memphis

/-! The first chat of a broker. -/

def memphisIdentity : TrustedIdentity := ⟨"broker-123", "memphis", "broker"⟩

def memphisChat (resource : Option ActiveResourcePayload) : ChatCall where
  request := ⟨"Show the confirmation.", none, none, resource⟩
  identity := memphisIdentity
  now := .first
  token := ⟨.ofList (List.replicate 32 'a'), by rfl⟩

def memphisReadings : Readings := ⟨"000000000001", "000000000002", "000000000003", .first⟩

theorem exists_session_of_memphisChat (resource : Option ActiveResourcePayload) :
    ∃ store session, Reachable (postChat id fun _ => ["broker-123"]) .empty store ∧
      store.sessions session.sessionId = some session ∧
      session.activeResource = resource.map ActiveResourcePayload.normalize ∧
      session.officeId = "memphis" := by
  have hrole : (memphisChat resource).identity.role = "broker" := rfl
  have hbroker : (memphisChat resource).identity.brokerId ∈
      (fun _ : String => ["broker-123"]) (memphisChat resource).identity.officeId :=
    List.mem_cons_self
  exact exists_session_of_new_request hrole hbroker rfl

end Memphis

/-- The booking of a session without a resource is reported. -/
theorem confirmPayload_accepted_iff_office : ∃ store session,
    Reachable (postChat id fun _ => ["broker-123"]) .empty store ∧
    store.sessions session.sessionId = some session ∧
    ∃ r db,
      execute .first (memphisCall "confirm-quote-88219" "key") memphisDatabase = some (r, db) ∧
    ∃ envelope, buildResponseEnvelope (confirmPayload session "booking_create_confirmed"
      "confirm-quote-88219" r memphisReadings) = .ok envelope := by
  obtain ⟨store, session, hreach, hsession, hresource, hoffice⟩ :=
    exists_session_of_memphisChat none
  refine ⟨store, session, hreach, hsession, _, _, rfl, ?_⟩
  exact (confirmPayload_accepted_iff hreach hsession _ _ _).mpr
    ⟨rfl, by simp [hresource], by simp [hoffice]⟩

/-- Two outcomes that the endpoint cannot report: a denial, and a booking that it has made for a
session with a `session` resource. -/
theorem outcomes_lost : ∃ store session,
    Reachable (postChat id fun _ => ["broker-123"]) .empty store ∧
    store.sessions session.sessionId = some session ∧
    (∃ r, execute .first (memphisCall "unknown" "key") memphisDatabase = some (r, memphisDatabase) ∧
      ¬ ∃ envelope, buildResponseEnvelope (confirmPayload session "booking_create_confirmed"
        "unknown" r memphisReadings) = .ok envelope) ∧
    ∃ r db,
      execute .first (memphisCall "confirm-quote-88219" "key") memphisDatabase = some (r, db) ∧
      r.status = .submitted ∧
      ¬ ∃ envelope, buildResponseEnvelope (confirmPayload session "booking_create_confirmed"
        "confirm-quote-88219" r memphisReadings) = .ok envelope := by
  obtain ⟨store, session, hreach, hsession, hresource, -⟩ :=
    exists_session_of_memphisChat (some ⟨.session, "chat", none, by decide, by decide⟩)
  refine ⟨store, session, hreach, hsession, ⟨_, rfl, buildResponseEnvelope_denied rfl⟩,
    _, _, rfl, rfl, ?_⟩
  rw [buildResponseEnvelope_submitted_iff (wellFormed_of_reachable hreach hsession) (by decide) rfl]
  exact fun h => h.1 _ hresource rfl

/-! ### The endpoint -/

/-- Past its checks the endpoint answers what the builder makes of the payload. -/
theorem postConfirmAction_eq {store : SessionStore} {identity : TrustedIdentity}
    {executeWriteGateway : Call → Except String BookingResult} {idempotencyKey sessionId : String}
    (hsession : store.sessions sessionId = some session) (hid : sessionId ≠ "")
    (htoken : confirmationToken ≠ "") (hkey : idempotencyKey ≠ "")
    (haccess : session.sessionAccessToken ≠ "") (hbroker : session.brokerId = identity.brokerId)
    (hoffice : session.officeId = identity.officeId)
    (hresult : executeWriteGateway
      (identity.call "booking_create_confirmed" confirmationToken idempotencyKey) = .ok result) :
    postConfirmAction store identity executeWriteGateway
        ⟨some "booking_create_confirmed", some confirmationToken, some idempotencyKey,
          some sessionId, some session.sessionAccessToken⟩ readings =
      (buildResponseEnvelope (confirmPayload session "booking_create_confirmed" confirmationToken
        result readings)).mapError .valueError := by
  simp [postConfirmAction, require, required, orRaise, hid, htoken, hkey, haccess, hbroker, hoffice,
    hsession, hresult, Except.mapError, bind, Except.bind, Option.filter]

end Meridian.Api
