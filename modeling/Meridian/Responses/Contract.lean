import Meridian.Foundations.JsonSchema

/-!
# The agent response contract

`contracts/agent-response-schema.json`, with each `$ref` replaced by the definition it refers to,
and the envelope builder of `backend/app/responses/builder.py`, which checks every response against
it. A validator without a format checker does not assert `format`.

## Main definitions

* `Meridian.Responses.agentResponse`: the contract.
* `Meridian.Responses.buildResponseEnvelope`: the builder.
-/

namespace Meridian.Responses

open Foundations

/-! ### Components -/

/-- `^prefix[A-Za-z0-9_]+$` by `re.search`; `$` also matches before a final newline. -/
def wordAfter (start text : String) : Bool :=
  let isWord (cs : List Char) := cs ≠ [] && cs.all fun c => c.isAlphanum || c = '_'
  start.toList.isPrefixOf text.toList &&
    let rest := text.toList.drop start.length
    isWord rest || (rest.getLast? = some '\n' && isWord rest.dropLast)

theorem wordAfter_append {start text : String} (hne : text ≠ "")
    (hword : ∀ c ∈ text.toList, c.isAlphanum = true ∨ c = '_') :
    wordAfter start (start ++ text) = true := by
  have hdrop : (start ++ text).toList.drop start.length = text.toList := by
    rw [String.toList_append, ← String.length_toList, List.drop_left]
  have hprefix : start.toList.isPrefixOf (start ++ text).toList = true := by
    rw [String.toList_append, List.isPrefixOf_iff_prefix]
    exact List.prefix_append _ _
  have hnil : text.toList ≠ [] := fun h => hne (String.toList_eq_nil_iff.mp h)
  simp only [wordAfter, hdrop, hprefix, Bool.true_and, Bool.or_eq_true]
  left
  simpa [hnil] using hword

/-- `component_base`. -/
def componentBase : Schema :=
  [.type [.object],
   .required ["component_id", "component_type"],
   .property "component_id" nonemptyString,
   .property "component_type" [.type [.string]],
   .property "title" [.type [.string, .null]]]

/-- A component of the given type with further keywords for its members. -/
def component (componentType : String) (members : List String) (properties : Schema) : Schema :=
  [.noUnevaluatedProperties,
   .allOf
     [componentBase,
      [.type [.object],
       .required ("component_type" :: members),
       .property "component_type" [.const (.str componentType)]] ++ properties]]

/-- An array of objects that have these members and no others. -/
def objects (minItems : List Keyword) (required : List String) (properties : Schema) : Schema :=
  [.type [.array]] ++ minItems ++
    [.items ([.type [.object], .noAdditionalProperties, .required required] ++ properties)]

theorem accepts_objects_iff {n : ℕ} {required : List String} {properties : Schema}
    {items : List Json} :
    Schema.accepts (objects [.minItems n] required properties) (.arr items) = true ↔
      n ≤ items.length ∧ ∀ item ∈ items, Schema.accepts
        ([.type [.object], .noAdditionalProperties, .required required] ++ properties) item =
          true := by
  rw [objects, Schema.accepts_of_isOpen rfl]
  simp [Keyword.admits_type, Json.hasType]

/-- `message_block_component`. -/
def messageBlockComponent : Schema :=
  component "message_block" ["body"]
    [.property "body" nonemptyString,
     .property "tone" (stringIn ["informational", "warning", "error"])]

/-- `table_component`. -/
def tableComponent : Schema :=
  component "table" ["columns", "rows"]
    [.property "columns" (objects [.minItems 1] ["key", "label", "data_type"]
       [.property "key" [.type [.string]],
        .property "label" [.type [.string]],
        .property "data_type" (stringIn ["string", "number", "date", "datetime", "status"])]),
     .property "rows"
       [.type [.array],
        .items [.type [.array], .items [.type [.string, .number, .boolean, .null]]]]]

/-- `metric_card_component`. -/
def metricCardComponent : Schema :=
  component "metric_card" ["metrics"]
    [.property "metrics" (objects [.minItems 1] ["label", "value"]
       [.property "label" [.type [.string]],
        .property "value" [.type [.string, .number]],
        .property "unit" [.type [.string, .null]]])]

/-- `timeline_component`. -/
def timelineComponent : Schema :=
  component "timeline" ["events"]
    [.property "events" (objects [.minItems 1] ["label", "timestamp"]
       [.property "label" [.type [.string]],
        .property "timestamp" [.type [.string]],
        .property "state" [.type [.string, .null]]])]

/-- `confirmation_card_component`. -/
def confirmationCardComponent : Schema :=
  component "confirmation_card" ["action_name", "confirmation_token", "expires_at", "fields"]
    [.property "action_name" [.type [.string], .const (.str "booking_create_confirmed")],
     .property "confirmation_token" nonemptyString,
     .property "expires_at" [.type [.string]],
     .property "fields" (objects [.minItems 3] ["key", "label", "value"]
       [.property "key" [.type [.string]],
        .property "label" [.type [.string]],
        .property "value" [.type [.string, .number]]])]

/-- The component definitions that `components` allows. -/
def componentDefinitions : List Schema :=
  [messageBlockComponent, tableComponent, metricCardComponent, timelineComponent,
   confirmationCardComponent]

/-- A component of one type is not one of another. -/
theorem component_rejects {componentType t : String} {members : List String} {properties : Schema}
    {j : Json} (h : j.get? "component_type" = some (.str t)) (hne : t ≠ componentType) :
    Schema.accepts (component componentType members properties) j = false := by
  rw [← Bool.not_eq_true]
  intro haccepts
  rw [component, accepts_closed_allOf, Bool.and_eq_true, List.all_cons, List.all_cons,
    Bool.and_eq_true, Bool.and_eq_true] at haccepts
  have hconst :
      Keyword.admits (.property "component_type" [.const (.str componentType)]) j = true :=
    Schema.admits_of_accepts haccepts.1.2.1 (by simp)
  rw [Keyword.admits_property, h, Option.all_some, accepts_const, decide_eq_true_eq,
    Scalar.str.injEq] at hconst
  exact hne hconst

/-- A component whose members are all declared is accepted by its two schemas. -/
theorem accepts_component_iff {componentType : String} {members : List String} {properties : Schema}
    {fields : List (String × Json)} (hflat : properties.all Keyword.flat = true)
    (hdeclared : (fields.map Prod.fst).all (["component_id", "component_type", "title"] ++
      properties.filterMap Keyword.declares).contains = true) :
    Schema.accepts (component componentType members properties) (.obj fields) = true ↔
      Schema.accepts componentBase (.obj fields) = true ∧
        Schema.accepts
          ([.type [.object], .required ("component_type" :: members),
            .property "component_type" [.const (.str componentType)]] ++ properties)
          (.obj fields) = true := by
  rw [component, accepts_closed_allOf]
  simp only [List.all_cons, List.all_nil, Bool.and_true, Bool.and_eq_true, and_iff_left_iff_imp]
  rintro ⟨hbase, hmembers⟩
  rw [List.all_eq_true]
  intro name hname
  have hget : ((Json.obj fields).get? name).isSome = true := by
    obtain ⟨field, hfield, rfl⟩ := List.mem_map.mp hname
    exact List.lookup_isSome_iff.mpr ⟨field, hfield, beq_self_eq_true _⟩
  have hmem := List.contains_iff_mem.mp (List.all_eq_true.mp hdeclared name hname)
  simp only [List.any_cons, List.any_nil, Bool.or_false, Schema.evaluates_of_flat hbase rfl,
    Schema.evaluates_of_flat hmembers
      (show List.all _ _ = true by simpa [Keyword.flat] using hflat),
    hget, Bool.and_true, Bool.or_eq_true, List.contains_iff_mem]
  simp only [componentBase, List.filterMap_cons, Keyword.declares, List.filterMap_nil,
    List.cons_append, List.nil_append, List.mem_cons, List.not_mem_nil, or_false] at hmem ⊢
  tauto

/-! ### Action buttons -/

/-- The `if` of a conditional: the member is present with the given value. -/
def memberIs (name value : String) : Schema :=
  [.property name [.const (.str value)], .required [name]]

theorem accepts_memberIs {fields : List (String × Json)} {name value s : String}
    (h : fields.lookup name = some (.str s)) :
    Schema.accepts (memberIs name value) (.obj fields) = decide (s = value) := by
  rw [memberIs, Schema.accepts_of_isOpen rfl]
  simp [h]

/-- `resource_type`. -/
def resourceTypes : List String := ["shipment", "carrier", "lane", "analytics", "session"]

/-- `action_button`. -/
def actionButton : Schema :=
  [.type [.object], .noAdditionalProperties,
   .required
     ["action_id", "label", "action_type", "resource_type", "resource_id", "surface",
      "requires_confirmation", "enabled", "disabled_reason"],
   .property "action_id" nonemptyString,
   .property "label" nonemptyString,
   .property "action_type"
     (stringIn ["open_details", "request_refinement", "confirm_booking", "cancel_booking"]),
   .property "resource_type" (stringIn resourceTypes),
   .property "resource_id" nonemptyString,
   .property "surface" (stringIn ["chat", "main_surface", "drawer", "modal"]),
   .property "requires_confirmation" [.type [.boolean]],
   .property "enabled" [.type [.boolean]],
   .property "disabled_reason" [.type [.string, .null]],
   .property "server_endpoint"
     [.type [.object], .noAdditionalProperties, .required ["method", "path"],
      .property "method" (stringIn ["GET", "POST", "PATCH", "DELETE"]),
      .property "path" nonemptyString],
   .property "permission_scope"
     [.type [.object], .noAdditionalProperties, .required ["office_id", "role", "broker_id"],
      .property "office_id" nonemptyString,
      .property "role" (stringIn ["broker"]),
      .property "broker_id" nonemptyString],
   .property "confirmation_token" nonemptyString,
   .property "confirmation_expires_at" [.type [.string]],
   .property "idempotency_key" nonemptyString,
   .property "ui_behavior"
     [.type [.object], .noAdditionalProperties,
      .required ["success_mode", "failure_mode", "post_success_refresh"],
      .property "success_mode" (stringIn ["chat_only", "sync_chat_and_screen"]),
      .property "failure_mode" (stringIn ["stay_in_confirmation", "show_failure_message"]),
      .property "post_success_refresh" [.type [.array], .items nonemptyString, .minItems 1]],
   .allOf
     [[.ifThen (memberIs "action_type" "confirm_booking")
         [.required
            ["server_endpoint", "permission_scope", "confirmation_token",
             "confirmation_expires_at", "idempotency_key", "ui_behavior"],
          .property "requires_confirmation" [.const (.bool true)]]],
      [.ifThen (memberIs "action_type" "cancel_booking")
         [.property "requires_confirmation" [.const (.bool false)]]]]]

/-! ### The envelope -/

/-- The `audit` of a conditional with a lower bound for the tool path. -/
def auditToolPath (n : ℕ) : Keyword :=
  .property "audit" [.type [.object], .property "tool_path" [.minItems n]]

/-- The `status` of a conditional. -/
def statusIs (status : String) : Keyword := .property "status" [.const (.str status)]

/-- A conditional without actions. -/
def noActions : Keyword := .property "actions" [.maxItems 0]

/-- The `policy` of a conditional. -/
def writeConfirmationRequired (b : Bool) : Keyword :=
  .property "policy"
    [.type [.object], .required ["write_confirmation_required"],
     .property "write_confirmation_required" [.const (.bool b)]]

/-- An object with the given action type. -/
def actionOfType (actionType : String) : Schema :=
  [.type [.object], .required ["action_type"],
   .property "action_type" [.const (.str actionType)]]

/-- The conditionals on `intent_class`. -/
def intentConditionals : List Schema :=
  [[.ifThen (memberIs "intent_class" "read_pending")
      [.required ["job_id", "job_poll_token"],
       .property "job_id" [.type [.string], .pattern (wordAfter "job_")],
       .property "job_poll_token" [.type [.string], .minLength 16],
       statusIs "pending", noActions, auditToolPath 0]],
   [.ifThen (memberIs "intent_class" "read_result") [statusIs "success", auditToolPath 1]],
   [.ifThen (memberIs "intent_class" "read_denied") [statusIs "denied", noActions]],
   [.ifThen (memberIs "intent_class" "write_confirmation_required")
      [.required ["actions"],
       statusIs "confirmation_required",
       .property "components" [.contains confirmationCardComponent],
       .property "actions"
         [.allOf
            [[.contains (actionOfType "confirm_booking")],
             [.contains (actionOfType "cancel_booking")]]],
       writeConfirmationRequired true, auditToolPath 1]],
   [.ifThen (memberIs "intent_class" "write_submitted")
      [statusIs "submitted", noActions, auditToolPath 1]],
   [.ifThen (memberIs "intent_class" "write_denied") [statusIs "denied", noActions]],
   [.ifThen (memberIs "intent_class" "error") [statusIs "error", noActions]],
   [.ifThen
      [.property "intent_class" [.not [.const (.str "write_confirmation_required")]],
       .required ["intent_class"]]
      [.property "components" [.not [.contains confirmationCardComponent]],
       .property "actions"
         [.items
            [.allOf
               [actionButton,
                [.type [.object], .required ["action_type"],
                 .property "action_type"
                   [.enum [.str "open_details", .str "request_refinement"]]]]]],
       writeConfirmationRequired false]]]

/-- `policy`. -/
def policySchema : Schema :=
  [.type [.object], .noAdditionalProperties,
   .required
     ["permission_context_applied", "sensitive_fields_redacted", "write_confirmation_required"],
   .property "permission_context_applied" [.type [.boolean], .const (.bool true)],
   .property "sensitive_fields_redacted" [.type [.boolean], .const (.bool true)],
   .property "write_confirmation_required" [.type [.boolean]],
   .property "denial_reason_class"
     [.type [.string, .null],
      .enum
        [.str "permission", .str "sensitive_field", .str "unsupported_request",
         .str "stale_state", .str "query_safety", .str "none", .null]]]

/-- `audit`. -/
def auditSchema : Schema :=
  [.type [.object], .noAdditionalProperties,
   .required ["actor_role", "office_scope", "tool_path", "response_generated_at"],
   .property "actor_role" (stringIn ["broker"]),
   .property "office_scope" nonemptyString,
   .property "tool_path" [.type [.array], .items nonemptyString],
   .property "response_generated_at" [.type [.string]]]

/-- `active_resource`. -/
def activeResourceSchema : Schema :=
  [.type [.object, .null], .noAdditionalProperties,
   .required ["resource_type", "resource_id", "resource_fingerprint"],
   .property "resource_type" (stringIn resourceTypes),
   .property "resource_id" nonemptyString,
   .property "resource_fingerprint" nonemptyString]

/-- `conversation_scope`. -/
def conversationScopes : List String :=
  ["global", "office", "shipment", "lane", "carrier", "analytics"]

/-- The contract `agent_response`. -/
def agentResponse : Schema :=
  [.type [.object], .noAdditionalProperties,
   .required
     ["contract_version", "response_id", "request_id", "intent_class", "status", "summary",
      "components", "policy", "audit"],
   .allOf intentConditionals,
   .property "contract_version" [.type [.string], .const (.str "0.1.0")],
   .property "response_id" nonemptyString,
   .property "request_id" nonemptyString,
   .property "trace_id" [.type [.string, .null]],
   .property "intent_class"
     (stringIn
       ["read_pending", "read_result", "read_denied", "write_confirmation_required",
        "write_submitted", "write_denied", "error"]),
   .property "status"
     (stringIn ["pending", "success", "denied", "confirmation_required", "submitted", "error"]),
   .property "summary" nonemptyString,
   .property "follow_up_prompt" [.type [.string, .null]],
   .property "components" [.type [.array], .minItems 1, .items [.oneOf componentDefinitions]],
   .property "actions" [.type [.array], .items actionButton],
   .property "session_id" [.type [.string], .pattern (wordAfter "chat_s_")],
   .property "session_access_token" [.type [.string, .null], .minLength 16],
   .property "conversation_scope" (stringIn conversationScopes),
   .property "context_binding_state" (stringIn ["bound", "partial", "stale", "missing"]),
   .property "screen_sync_state" (stringIn ["not_applicable", "pending", "applied", "blocked"]),
   .property "active_resource" activeResourceSchema,
   .property "job_id" [.type [.string, .null], .pattern (wordAfter "job_")],
   .property "job_poll_token" [.type [.string, .null], .minLength 16],
   .property "policy" policySchema,
   .property "audit" auditSchema]

/-! ### The builder -/

/-- `envelope.setdefault(name, value)`. -/
def setDefault (name : String) (value : Json) (envelope : List (String × Json)) :
    List (String × Json) :=
  if (envelope.lookup name).isSome then envelope else envelope ++ [(name, value)]

/-- Whether `not envelope.get(name)` is false for a member that is an array or absent. -/
def hasItems (name : String) (envelope : List (String × Json)) : Bool :=
  match envelope.lookup name with
  | some (.arr items) => items ≠ []
  | _ => false

/-- The components of an envelope that has none. -/
def summaryComponents (envelope : List (String × Json)) : Json :=
  .arr
    [.obj
      [("component_id", .str "summary-message"),
       ("component_type", .str "message_block"),
       ("body", (envelope.lookup "summary").getD (.str "")),
       ("tone", .str "informational")]]

/-- `build_response_envelope` on the members of a payload, whose `components` are a list and whose
`summary` is a string. -/
def buildResponseEnvelope (payload : List (String × Json)) : Except String Json :=
  let envelope :=
    setDefault "trace_id" .null (setDefault "follow_up_prompt" .null
      (setDefault "actions" (.arr []) payload))
  let envelope :=
    if hasItems "components" envelope then envelope
    else envelope.filter (·.1 ≠ "components") ++ [("components", summaryComponents envelope)]
  if agentResponse.accepts (.obj envelope) then .ok (.obj envelope)
  else .error "schema validation failed"

theorem setDefault_of_isSome {envelope : List (String × Json)} {name : String} {value : Json}
    (h : (envelope.lookup name).isSome = true) : setDefault name value envelope = envelope :=
  if_pos h

/-- A payload that leaves nothing to default is checked as it is. -/
theorem buildResponseEnvelope_eq {payload : List (String × Json)}
    (hactions : (payload.lookup "actions").isSome = true)
    (hfollowUp : (payload.lookup "follow_up_prompt").isSome = true)
    (htrace : (payload.lookup "trace_id").isSome = true)
    (hcomponents : hasItems "components" payload = true) :
    buildResponseEnvelope payload =
      if agentResponse.accepts (.obj payload) then .ok (.obj payload)
      else .error "schema validation failed" := by
  rw [buildResponseEnvelope]
  simp only [setDefault_of_isSome hactions, setDefault_of_isSome hfollowUp,
    setDefault_of_isSome htrace, hcomponents, if_true]

/-- The builder takes such a payload exactly if the contract does. -/
theorem exists_buildResponseEnvelope_iff {payload : List (String × Json)}
    (hactions : (payload.lookup "actions").isSome = true)
    (hfollowUp : (payload.lookup "follow_up_prompt").isSome = true)
    (htrace : (payload.lookup "trace_id").isSome = true)
    (hcomponents : hasItems "components" payload = true) :
    (∃ envelope, buildResponseEnvelope payload = .ok envelope) ↔
      agentResponse.accepts (.obj payload) = true := by
  rw [buildResponseEnvelope_eq hactions hfollowUp htrace hcomponents]
  split_ifs with h
  · simp [h]
  · simp [h]

theorem lookup_setDefault {envelope : List (String × Json)} {name : String} {v : Json}
    (name' : String) (value : Json) (h : envelope.lookup name = some v) :
    (setDefault name' value envelope).lookup name = some v := by
  rw [setDefault]
  split_ifs
  · exact h
  · rw [List.lookup_append, h, Option.some_or]

theorem lookup_filter_ne {envelope : List (String × Json)} {name name' : String}
    (hne : name ≠ name') : (envelope.filter (·.1 ≠ name')).lookup name = envelope.lookup name := by
  induction envelope with
  | nil => rfl
  | cons field envelope ih =>
    obtain ⟨key, value⟩ := field
    by_cases hkey : key = name'
    · rw [List.filter_cons_of_neg (by simpa using hkey), ih, List.lookup_cons,
        beq_eq_false_iff_ne.mpr (hkey ▸ hne)]
    · rw [List.filter_cons_of_pos (by simpa using hkey), List.lookup_cons, List.lookup_cons, ih]

/-- The builder keeps every member but the components. -/
theorem get?_of_buildResponseEnvelope {payload : List (String × Json)} {envelope value : Json}
    {name : String} (h : buildResponseEnvelope payload = .ok envelope) (hne : name ≠ "components")
    (hlookup : payload.lookup name = some value) : envelope.get? name = some value := by
  have hdefaults := lookup_setDefault "trace_id" .null (lookup_setDefault "follow_up_prompt" .null
    (lookup_setDefault "actions" (.arr []) hlookup))
  rw [buildResponseEnvelope] at h
  split_ifs at h
  · cases h
    exact hdefaults
  · cases h
    rw [Json.get?_obj, List.lookup_append, lookup_filter_ne hne, hdefaults, Option.some_or]

end Meridian.Responses
