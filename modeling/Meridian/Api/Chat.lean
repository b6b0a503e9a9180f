import Meridian.Api.Actions
import Meridian.Foundations.LoadedJson
import Meridian.Tools.Noninterference
import Mathlib.Data.List.OfFn

/-!
# The answers of the chat

The payloads that `post_chat` of `backend/app/api/routes/chat.py` builds: the result of a read, the
notice of a stale binding, the answer that a job is pending, and the result prepared for the job.

## Main definitions

* `Meridian.Api.Chat.readResultForRequest`: what is read for a request.
* `Meridian.Api.Chat.payloads`: the payloads of a request.
* `Meridian.Api.SessionState.FitsContract`: a session that the contract takes.
* `Meridian.Api.Chat.PrimaryHasEvents`: the condition on the database.

## Main results

* `Meridian.Api.Chat.payloads_accepted_iff`: exactly when the builder takes all payloads of a
  request.
* `Meridian.Api.Chat.answers_accepted_iff`: the same for the sessions that requests store.
-/

namespace Meridian.Api

open Foundations Db Tools Responses

namespace Chat

/-! ### The payloads -/

/-- `_base_payload`. -/
def basePayload (session : SessionState) (intentClass status summary : String)
    (components : List Json) (toolPath : List String) (denialReasonClass : String)
    (jobId jobPollToken : Option String) (readings : Readings) : List (String × Json) :=
  [("contract_version", .str "0.1.0"),
   ("response_id", .str ("resp_" ++ readings.responseHex)),
   ("request_id", .str ("req_" ++ readings.requestHex)),
   ("trace_id", .str ("trace_" ++ readings.traceHex)),
   ("session_id", .str session.sessionId),
   ("session_access_token", .str session.sessionAccessToken),
   ("conversation_scope", .str session.conversationScope),
   ("context_binding_state", .str session.contextBindingState),
   ("screen_sync_state", .str session.screenSyncState),
   ("active_resource", (session.activeResource.map ActiveResourceBinding.toDict).getD .null),
   ("job_id", .strOrNull jobId),
   ("job_poll_token", .strOrNull jobPollToken),
   ("intent_class", .str intentClass),
   ("status", .str status),
   ("summary", .str summary),
   ("follow_up_prompt", .null),
   ("components", .arr components),
   ("actions", .arr []),
   ("policy", policy denialReasonClass),
   ("audit", audit session toolPath readings.now)]

/-- A message block without a title. -/
def notice (componentId body tone : String) : Json :=
  .obj
    [("component_id", .str componentId),
     ("component_type", .str "message_block"),
     ("body", .str body),
     ("tone", .str tone)]

/-- `_is_async_refresh_request`. -/
def isAsyncRefreshRequest (lower : String → String) (prompt : String) : Bool :=
  Text.contains "background" (lower prompt) && Text.contains "refresh" (lower prompt) &&
    Text.contains "analytics" (lower prompt) &&
    ["exception", "exceptions"].any (Text.contains · (lower prompt))

/-- The arguments of the read for a prompt in a session. -/
def readCall (session : SessionState) (prompt : String) : ReadCall where
  prompt := prompt
  activeResource := session.activeResource.map fun resource =>
    [("resource_type", .str resource.resourceType.text),
     ("resource_id", .str resource.resourceId),
     ("resource_fingerprint", .str resource.resourceFingerprint)]
  toolName := none
  toolArguments := none

/-- The result that stands for a read while the binding is stale. -/
def staleResult : Json :=
  let text := "Shipment context changed. Refresh before taking further action."
  .obj
    [("tool_name", .str "shipment_exception_lookup"),
     ("summary", .str text),
     ("components", .arr [notice "msg-chat-read" text "warning"]),
     ("denial_reason_class", .str "stale_state")]

/-- `_read_result_for_request`, where a binding is stale if the session says so. -/
def readResultForRequest (host : Host) (db : Database) (prompt : String) (session : SessionState)
    (identity : TrustedIdentity) : Except ReadError Json :=
  if session.contextBindingState = "stale" then .ok staleResult
  else executeAllowlistedRead host db identity.officeId (readCall session prompt)

/-- `_build_read_result_payload` for what has been read. -/
def readResultPayload (session : SessionState) (readResult : Json) (jobId : Option String)
    (readings : Readings) : List (String × Json) :=
  basePayload session "read_result" "success" (readResult.getD "summary").toStr
    (readResult.getD "components").toItems [(readResult.getD "tool_name").toStr]
    ((readResult.get? "denial_reason_class").getD (.str "none")).toStr jobId none readings

/-- The payload that a job is pending. -/
def pendingPayload (session : SessionState) (jobId jobPollToken : String) (readings : Readings) :
    List (String × Json) :=
  let text := "Background refresh started for the Memphis exception view."
  basePayload session "read_pending" "pending" text [notice "msg-job-pending" text "informational"]
    [] "none" (some jobId) (some jobPollToken) readings

/-- `next_job_id` for the twelve digits that it draws. -/
def jobIdAt (now : UtcTime) (hex : Fin 12 → Fin 16) : String :=
  "job_" ++ stamp now ++ "_" ++ .ofList (List.ofFn fun i => Nat.digitChar (hex i))

/-- What is drawn and read from the clock for the answers to a request: the id and the token of its
job, and the readings for the result prepared for it and for the answer. -/
structure Draws where
  jobNow : UtcTime
  jobHex : Fin 12 → Fin 16
  jobPollToken : AccessToken
  prepared : Readings
  answer : Readings

/-- The id of the job. -/
def Draws.jobId (draws : Draws) : String := jobIdAt draws.jobNow draws.jobHex

/-- The payloads that `post_chat` builds, given what it has read. -/
def payloads (lower : String → String) (prompt : String) (session : SessionState)
    (readResult : Json) (draws : Draws) : List (List (String × Json)) :=
  if isAsyncRefreshRequest lower prompt then
    [readResultPayload session readResult (some draws.jobId) draws.prepared,
     pendingPayload session draws.jobId draws.jobPollToken draws.answer]
  else [readResultPayload session readResult none draws.answer]

/-! ### Components -/

/-- A table. -/
def table (componentId title : String) (columns rows : List Json) : Json :=
  .obj
    [("component_id", .str componentId),
     ("component_type", .str "table"),
     ("title", .str title),
     ("columns", .arr columns),
     ("rows", .arr rows)]

/-- A card of metrics. -/
def metricCard (componentId title : String) (metrics : List Json) : Json :=
  .obj
    [("component_id", .str componentId),
     ("component_type", .str "metric_card"),
     ("title", .str title),
     ("metrics", .arr metrics)]

/-- A timeline. -/
def timeline (componentId title : String) (events : List Json) : Json :=
  .obj
    [("component_id", .str componentId),
     ("component_type", .str "timeline"),
     ("title", .str title),
     ("events", .arr events)]

section Components

variable {id title body tone : String}

theorem accepts_componentBase_iff {componentType : String} {fields : List (String × Json)}
    (hid : fields.lookup "component_id" = some (.str id))
    (htype : fields.lookup "component_type" = some (.str componentType))
    (htitle : (fields.lookup "title").all
      (Schema.accepts [.type [.string, .null]] ·) = true) :
    Schema.accepts componentBase (.obj fields) = true ↔ id ≠ "" := by
  rw [componentBase, Schema.accepts_of_isOpen rfl]
  simp [Keyword.admits_type, Json.hasType, hid, htype, htitle]

/-- The contract takes a notice with a text in one of its tones. -/
theorem accepts_notice_iff :
    Schema.accepts [.oneOf componentDefinitions] (notice id body tone) = true ↔
      id ≠ "" ∧ body ≠ "" ∧ tone ∈ ["informational", "warning", "error"] := by
  have hrejects {t members properties} (hne : "message_block" ≠ t) :
      Schema.accepts (component t members properties) (notice id body tone) = false :=
    component_rejects rfl hne
  have hblock : Schema.accepts messageBlockComponent (notice id body tone) = true ↔
      id ≠ "" ∧ body ≠ "" ∧ tone ∈ ["informational", "warning", "error"] := by
    rw [messageBlockComponent, notice, accepts_component_iff rfl rfl,
      accepts_componentBase_iff rfl rfl rfl]
    refine and_congr_right fun _ => ?_
    rw [Schema.accepts_of_isOpen rfl]
    simp [Keyword.admits_type, Json.hasType, List.lookup_cons]
  rw [← hblock, Schema.accepts_of_isOpen rfl]
  simp [componentDefinitions, hrejects, tableComponent, metricCardComponent, timelineComponent,
    confirmationCardComponent, List.countP_cons]

/-- The contract takes a table with columns whose cells are scalars. -/
theorem accepts_table {α : Type*} {columns : List Json} {items : List α} {cells : α → List Json}
    (hid : id ≠ "")
    (hcolumns : Schema.accepts (objects [.minItems 1] ["key", "label", "data_type"]
       [.property "key" [.type [.string]],
        .property "label" [.type [.string]],
        .property "data_type" (stringIn ["string", "number", "date", "datetime", "status"])])
      (.arr columns) = true)
    (hcells : ∀ a ∈ items, ∀ c ∈ cells a,
      Schema.accepts [.type [.string, .number, .boolean, .null]] c = true) :
    Schema.accepts [.oneOf componentDefinitions]
      (table id title columns (items.map fun a => .arr (cells a))) = true := by
  set rows : List Json := items.map fun a => .arr (cells a) with hitems
  have hrejects {t members properties} (hne : "table" ≠ t) :
      Schema.accepts (component t members properties) (table id title columns rows) = false :=
    component_rejects rfl hne
  have hrows : Schema.accepts [.type [.array],
      .items [.type [.array], .items [.type [.string, .number, .boolean, .null]]]] (.arr rows) =
        true := by
    have hrow (a : α) (ha : a ∈ items) : Schema.accepts
        [.type [.array], .items [.type [.string, .number, .boolean, .null]]] (.arr (cells a)) =
          true := by
      rw [Schema.accepts_of_isOpen rfl]
      simpa [Keyword.admits_type, Json.hasType] using hcells a ha
    rw [Schema.accepts_of_isOpen rfl]
    simpa [Keyword.admits_type, Json.hasType, hitems] using hrow
  have htable : Schema.accepts tableComponent (table id title columns rows) = true := by
    rw [tableComponent, table, accepts_component_iff rfl rfl, accepts_componentBase_iff rfl rfl rfl]
    refine ⟨hid, ?_⟩
    rw [Schema.accepts_of_isOpen rfl]
    simp [Keyword.admits_type, Json.hasType, List.lookup_cons, hcolumns, hrows]
  rw [Schema.accepts_of_isOpen rfl]
  simp [componentDefinitions, hrejects, htable, messageBlockComponent, metricCardComponent,
    timelineComponent, confirmationCardComponent]

/-- The contract takes a card with metrics. -/
theorem accepts_metricCard {metrics : List Json} (hid : id ≠ "") (hne : metrics ≠ [])
    (hmetrics : ∀ m ∈ metrics, ∃ label value unit, m = metricOf label value unit) :
    Schema.accepts [.oneOf componentDefinitions] (metricCard id title metrics) = true := by
  have hrejects {t members properties} (hne : "metric_card" ≠ t) :
      Schema.accepts (component t members properties) (metricCard id title metrics) = false :=
    component_rejects rfl hne
  have hobjects : Schema.accepts (objects [.minItems 1] ["label", "value"]
       [.property "label" [.type [.string]],
        .property "value" [.type [.string, .number]],
        .property "unit" [.type [.string, .null]]]) (.arr metrics) = true := by
    refine accepts_objects_iff.mpr ⟨List.length_pos_of_ne_nil hne, fun m hm => ?_⟩
    obtain ⟨label, value, unit, rfl⟩ := hmetrics m hm
    cases unit <;> rw [Schema.accepts_eq] <;>
      simp [Keyword.closes, Keyword.declares, Keyword.admits_type, Json.hasType, List.lookup_cons,
        metricOf, Json.strOrNull]
  have hcard : Schema.accepts metricCardComponent (metricCard id title metrics) = true := by
    rw [metricCardComponent, metricCard, accepts_component_iff rfl rfl,
      accepts_componentBase_iff rfl rfl rfl]
    refine ⟨hid, ?_⟩
    rw [Schema.accepts_of_isOpen rfl]
    simp [Keyword.admits_type, Json.hasType, List.lookup_cons, hobjects]
  rw [Schema.accepts_of_isOpen rfl]
  simp [componentDefinitions, hrejects, hcard, messageBlockComponent, tableComponent,
    timelineComponent, confirmationCardComponent]

/-- An event of a timeline. -/
def eventOf (event : EventRow) : Json :=
  .obj
    [("label", .str event.eventType), ("timestamp", .str event.eventAt), ("state", .str "active")]

/-- The contract takes a timeline with an event. -/
theorem accepts_timeline_iff {events : List EventRow} (hid : id ≠ "") :
    Schema.accepts [.oneOf componentDefinitions] (timeline id title (events.map eventOf)) = true ↔
      events ≠ [] := by
  have hrejects {t members properties} (hne : "timeline" ≠ t) :
      Schema.accepts (component t members properties) (timeline id title (events.map eventOf)) =
        false :=
    component_rejects rfl hne
  have hevents : Schema.accepts (objects [.minItems 1] ["label", "timestamp"]
       [.property "label" [.type [.string]],
        .property "timestamp" [.type [.string]],
        .property "state" [.type [.string, .null]]]) (.arr (events.map eventOf)) = true ↔
      events ≠ [] := by
    rw [accepts_objects_iff, List.length_map, Nat.one_le_iff_ne_zero, ne_eq, ne_eq,
      List.length_eq_zero_iff, and_iff_left_iff_imp, List.forall_mem_map]
    intro _ event _
    rw [Schema.accepts_eq]
    simp [Keyword.closes, Keyword.declares, Keyword.admits_type, Json.hasType, List.lookup_cons,
      eventOf]
  have htimeline : Schema.accepts timelineComponent (timeline id title (events.map eventOf)) =
      true ↔ events ≠ [] := by
    rw [← hevents, timelineComponent, timeline, accepts_component_iff rfl rfl,
      accepts_componentBase_iff rfl rfl rfl, and_iff_right hid, Schema.accepts_of_isOpen rfl]
    simp [Keyword.admits_type, Json.hasType, List.lookup_cons]
  rw [← htimeline, Schema.accepts_of_isOpen rfl]
  simp [componentDefinitions, hrejects, messageBlockComponent, tableComponent,
    metricCardComponent, confirmationCardComponent, List.countP_cons]

end Components

/-! ### What a read answers -/

/-- The rows that `_shipment_exception_response` selects. -/
def exceptionRows (host : Host) (db : Database) (officeId : String) (call : ReadCall) :
    Except ReadError (List (ShipmentRow × CarrierRow)) := do
  let filters ← exceptionFilters host.py call.prompt
  let resourceId := call.activeResource.map fun fields =>
    ((fields.lookup "resource_id").getD .none).toText host.py
  db.shipmentsForExceptionView host officeId filters.exceptionType filters.shipmentState
    filters.insuranceExpiryWindowDays none resourceId

/-- If the read is one of an exception view, the first shipment of the view has events. -/
def PrimaryHasEvents (host : Host) (db : Database) (officeId : String) (call : ReadCall) : Prop :=
  call.selectedToolName host.py = "shipment_exception_lookup" →
    ∀ rows, exceptionRows host db officeId call = .ok rows →
      ∀ primary ∈ rows.head?, db.shipmentEvents host officeId primary.1.shipmentId ≠ []

variable {host : Host} {db : Database} {officeId : String} {call : ReadCall} {result : Json}

theorem shipmentExceptionResponse_eq : shipmentExceptionResponse host db officeId call =
    (exceptionRows host db officeId call).bind fun rows =>
      .ok (exceptionResult (db.shipmentEvents host officeId) rows) := by
  rw [shipmentExceptionResponse, exceptionRows]
  cases exceptionFilters host.py call.prompt with
  | error e => rfl
  | ok filters => rfl

/-- A result with a text and with components that the contract takes exactly if `shown` holds, none
of them a confirmation card. -/
def Answers (result : Json) (shown : Prop) : Prop :=
  ∃ toolName summary components, result = readResult toolName summary components ∧
    toolName ≠ "" ∧ summary ≠ "" ∧ components ≠ [] ∧
    (∀ c ∈ components, Schema.accepts confirmationCardComponent c = false) ∧
    ((∀ c ∈ components, Schema.accepts [.oneOf componentDefinitions] c = true) ↔ shown)

theorem Answers.congr {result : Json} {p q : Prop} (h : Answers result p) (hpq : p ↔ q) :
    Answers result q :=
  propext hpq ▸ h

theorem answers_emptyReadResult {toolName summary : String} (htool : toolName ≠ "")
    (hsummary : summary ≠ "") : Answers (emptyReadResult toolName summary) True := by
  refine ⟨toolName, summary, [notice "msg-empty-read" summary "informational"], rfl, htool,
    hsummary,
    List.cons_ne_nil _ _, ?_, ?_⟩
  · exact List.forall_mem_singleton.mpr (component_rejects rfl (by decide))
  · simp [accepts_notice_iff, hsummary]

theorem answers_rankingResult (host : Host) (rankingMetric : String) (rows : List RankingRow) :
    Answers (rankingResult host rankingMetric rows) True := by
  cases rows with
  | nil => exact answers_emptyReadResult (by decide) (by decide)
  | cons top rest =>
    refine ⟨_, _, [table "table-carrier-rankings" "Carrier rankings" _ _], rfl, by decide, ?_,
      List.cons_ne_nil _ _, ?_, ?_⟩
    · split <;> simp
    · exact List.forall_mem_singleton.mpr (component_rejects rfl (by decide))
    · simp only [List.forall_mem_singleton, iff_true]
      refine accepts_table (by decide) rfl fun row _ => ?_
      simp [Json.hasType]

/-- The answer for an exception view is taken exactly if its first shipment has events. -/
theorem answers_exceptionResult (events : String → List EventRow)
    (rows : List (ShipmentRow × CarrierRow)) :
    Answers (exceptionResult events rows)
      (∀ primary ∈ rows.head?, events primary.1.shipmentId ≠ []) := by
  cases rows with
  | nil => exact (answers_emptyReadResult (by decide) (by decide)).congr (by simp)
  | cons primary rest =>
    refine ⟨_, _, [table "table-shipment-exceptions" "Shipment exceptions" _ _,
      timeline "timeline-shipment-events" "Shipment timeline"
        ((events primary.1.shipmentId).map eventOf)], rfl, by decide, by simp,
      List.cons_ne_nil _ _, ?_, ?_⟩
    · rw [List.forall_mem_cons, List.forall_mem_singleton]
      exact ⟨component_rejects rfl (by decide), component_rejects rfl (by decide)⟩
    · have hcells : ∀ r ∈ primary :: rest, ∀ c ∈
          ([.str r.1.shipmentId, .strOrNull r.1.exceptionType, .str r.2.carrierName,
            .str r.1.etaAt] : List Json),
          Schema.accepts [.type [.string, .number, .boolean, .null]] c = true := by
        intro r _
        cases r.1.exceptionType <;> simp [Json.hasType, Json.strOrNull]
      rw [List.forall_mem_cons, List.forall_mem_singleton,
        and_iff_right (accepts_table (by decide) rfl hcells), accepts_timeline_iff (by decide)]
      simp

/-- The answer for metrics is taken. -/
theorem answers_shipmentMetricsResponse
    (h : shipmentMetricsResponse host db officeId call = .ok result) : Answers result True := by
  have hcard {summary id title : String} {metrics : List Json} (hsummary : summary ≠ "")
      (hid : id ≠ "") (hne : metrics ≠ [])
      (hmetrics : ∀ m ∈ metrics, ∃ label value unit, m = metricOf label value unit) :
      Answers (readResult "shipment_metrics_lookup" summary [metricCard id title metrics])
        True := by
    refine ⟨_, _, _, rfl, by decide, hsummary, List.cons_ne_nil _ _, ?_, ?_⟩
    · exact List.forall_mem_singleton.mpr (component_rejects rfl (by decide))
    · simp only [List.forall_mem_singleton, accepts_metricCard hid hne hmetrics]
  simp only [shipmentMetricsResponse, bind_eq_ok] at h
  obtain ⟨filters, -, shipments, -, h⟩ := h
  split_ifs at h
  · cases h
    exact answers_emptyReadResult (by decide) (by decide)
  · cases h
    refine hcard (by simp) (by decide) (List.cons_ne_nil _ _) ?_
    exact List.forall_mem_cons.mpr ⟨⟨_, _, _, rfl⟩, List.forall_mem_singleton.mpr ⟨_, _, _, rfl⟩⟩
  · cases h
    refine hcard (by simp) (by decide) (List.cons_ne_nil _ _) ?_
    exact List.forall_mem_cons.mpr ⟨⟨_, _, _, rfl⟩, List.forall_mem_singleton.mpr ⟨_, _, _, rfl⟩⟩

/-- A read that returns answers, and the contract takes the answer exactly if the primary shipment
of an exception view has events. -/
theorem answers_executeAllowlistedRead
    (h : executeAllowlistedRead host db officeId call = .ok result) :
    Answers result (PrimaryHasEvents host db officeId call) := by
  have htrue (hne : call.selectedToolName host.py ≠ "shipment_exception_lookup") :
      True ↔ PrimaryHasEvents host db officeId call := by simp [PrimaryHasEvents, hne]
  rw [executeAllowlistedRead] at h
  split_ifs at h with hmetrics hranking hexception
  · exact (answers_shipmentMetricsResponse h).congr (htrue (by simp [hmetrics]))
  · rw [carrierRankingResponse] at h
    simp only [bind_eq_ok] at h
    obtain ⟨filters, -, rows, -, ⟨⟩⟩ := h
    exact (answers_rankingResult host _ rows).congr (htrue (by simp [hranking]))
  · rw [shipmentExceptionResponse_eq] at h
    obtain ⟨rows, hrows, ⟨⟩⟩ := bind_eq_ok.mp h
    refine (answers_exceptionResult _ rows).congr ?_
    simp [PrimaryHasEvents, hexception, hrows]

/-! ### What the contract takes -/

end Chat

/-- A session that the contract takes. -/
structure SessionState.FitsContract (session : SessionState) : Prop where
  sessionId : wordAfter "chat_s_" session.sessionId = true
  sessionAccessToken : 16 ≤ session.sessionAccessToken.length
  role : session.role = "broker"
  officeId : session.officeId ≠ ""
  conversationScope : session.conversationScope ∈ conversationScopes
  contextBindingState :
    session.contextBindingState ∈ ["bound", "partial", "stale", "missing"]
  screenSyncState :
    session.screenSyncState ∈ ["not_applicable", "pending", "applied", "blocked"]
  activeResource : ∀ resource ∈ session.activeResource,
    resource.resourceId ≠ "" ∧ resource.resourceFingerprint ≠ ""

namespace Chat

section BasePayload

variable {session : SessionState} {intentClass status summary : String} {components : List Json}
  {toolPath : List String} {denialReasonClass : String} {jobId jobPollToken : Option String}
  {readings : Readings}

theorem exists_envelope_iff (hcomponents : components ≠ []) :
    (∃ envelope, buildResponseEnvelope (basePayload session intentClass status summary components
        toolPath denialReasonClass jobId jobPollToken readings) = .ok envelope) ↔
      agentResponse.accepts (.obj (basePayload session intentClass status summary components
        toolPath denialReasonClass jobId jobPollToken readings)) = true :=
  exists_buildResponseEnvelope_iff rfl rfl rfl (decide_eq_true hcomponents)

/-- The contract takes a payload if it takes its session and its other parts. -/
theorem accepts_basePayload_iff
    (hconditionals : (Keyword.allOf intentConditionals).admits
      (.obj (basePayload session intentClass status summary components toolPath denialReasonClass
        jobId jobPollToken readings)) = true)
    (hintent : intentClass ∈ ["read_pending", "read_result", "read_denied",
      "write_confirmation_required", "write_submitted", "write_denied", "error"])
    (hstatus : status ∈ ["pending", "success", "denied", "confirmation_required", "submitted",
      "error"])
    (hsummary : summary ≠ "") (hne : components ≠ []) (htools : ∀ tool ∈ toolPath, tool ≠ "")
    (hdenial : denialReasonClass ∈ ["permission", "sensitive_field", "unsupported_request",
      "stale_state", "query_safety", "none"])
    (hjob : ∀ id ∈ jobId, wordAfter "job_" id = true)
    (htoken : ∀ token ∈ jobPollToken, 16 ≤ token.length) :
    agentResponse.accepts (.obj (basePayload session intentClass status summary components toolPath
        denialReasonClass jobId jobPollToken readings)) = true ↔
      session.FitsContract ∧
        ∀ c ∈ components, Schema.accepts [.oneOf componentDefinitions] c = true := by
  have hcomponents : Schema.accepts [.type [.array], .minItems 1,
      .items [.oneOf componentDefinitions]] (.arr components) = true ↔
        ∀ c ∈ components, Schema.accepts [.oneOf componentDefinitions] c = true := by
    have hlen : 1 ≤ components.length := List.length_pos_of_ne_nil hne
    rw [Schema.accepts_of_isOpen rfl]
    simp [Keyword.admits_type, Json.hasType, hlen]
  have hsessionId : Schema.accepts [.type [.string], .pattern (wordAfter "chat_s_")]
      (.str session.sessionId) = wordAfter "chat_s_" session.sessionId := by
    rw [Schema.accepts_of_isOpen rfl]
    simp [Keyword.admits_type, Json.hasType]
  have haccess : Schema.accepts [.type [.string, .null], .minLength 16]
      (.str session.sessionAccessToken) = decide (16 ≤ session.sessionAccessToken.length) := by
    rw [Schema.accepts_of_isOpen rfl]
    simp [Keyword.admits_type, Json.hasType]
  have hjobId : Schema.accepts [.type [.string, .null], .pattern (wordAfter "job_")]
      (.strOrNull jobId) = true := by
    cases jobId with
    | none => rfl
    | some id =>
      rw [Schema.accepts_of_isOpen rfl]
      simp [Keyword.admits_type, Json.hasType, Json.strOrNull, hjob id rfl]
  have hpollToken : Schema.accepts [.type [.string, .null], .minLength 16]
      (.strOrNull jobPollToken) = true := by
    cases jobPollToken with
    | none => rfl
    | some token =>
      rw [Schema.accepts_of_isOpen rfl]
      simp [Keyword.admits_type, Json.hasType, Json.strOrNull, htoken token rfl]
  have hactions : Schema.accepts [.type [.array], .items actionButton] (.arr []) = true := by
    rw [Schema.accepts_of_isOpen rfl]
    simp [Keyword.admits_type, Json.hasType]
  have hversion : Schema.accepts [.type [.string], .const (.str "0.1.0")] (.str "0.1.0") = true :=
    rfl
  set payload := basePayload session intentClass status summary components toolPath
    denialReasonClass jobId jobPollToken readings with hpayload
  have hcloses (evaluated : List String) :
      agentResponse.all (Keyword.closes agentResponse evaluated (.obj payload)) = true := rfl
  rw [Schema.accepts_eq, hcloses, Bool.and_true, agentResponse]
  simp only [List.all_cons, List.all_nil, hconditionals]
  simp [hpayload, basePayload, List.lookup_cons, Keyword.admits_type, Json.hasType, hsummary,
    hactions, hversion, hjobId, hpollToken, hsessionId, haccess, hcomponents, accepts_audit_iff,
    accepts_policy_iff, accepts_activeResource_iff]
  simp only [List.mem_cons, List.not_mem_nil, or_false] at hintent hstatus hdenial
  constructor
  · rintro ⟨-, -, hc, hid, htok, hscope, hbinding, hsync, hresource, -, hrole, hoffice, -⟩
    exact ⟨⟨hid, htok, hrole, hoffice, hscope, by simpa using hbinding, by simpa using hsync,
      hresource⟩, hc⟩
  · rintro ⟨⟨hid, htok, hrole, hoffice, hscope, hbinding, hsync, hresource⟩, hc⟩
    exact ⟨hintent, hstatus, hc, hid, htok, hscope, by simpa using hbinding, by simpa using hsync,
      hresource, hdenial, hrole, hoffice, htools⟩

/-- Of the conditionals, only the one for everything but a requested confirmation asks something of
the components and the policy. -/
theorem accepts_other
    (hcards : ∀ c ∈ components, Schema.accepts confirmationCardComponent c = false) :
    Schema.accepts
      [.property "components" [.not [.contains confirmationCardComponent]],
       .property "actions"
         [.items
            [.allOf
               [actionButton,
                [.type [.object], .required ["action_type"],
                 .property "action_type"
                   [.enum [.str "open_details", .str "request_refinement"]]]]]],
       writeConfirmationRequired false]
      (.obj (basePayload session intentClass status summary components toolPath denialReasonClass
        jobId jobPollToken readings)) = true := by
  simpa [Schema.accepts_of_isOpen, Keyword.isOpen, basePayload, policy, List.lookup_cons,
    writeConfirmationRequired, Keyword.admits_type, Json.hasType] using hcards

theorem accepts_ifThen {condition consequence : Schema} {j : Json} :
    Schema.accepts [.ifThen condition consequence] j =
      (!Schema.accepts condition j || Schema.accepts consequence j) := by
  rw [Schema.accepts_of_isOpen rfl, List.all_cons, List.all_nil, Bool.and_true,
    Keyword.admits_ifThen]

/-- The conditionals admit the result of a read. -/
theorem admits_readResult {tool : String}
    (hcards : ∀ c ∈ components, Schema.accepts confirmationCardComponent c = false) :
    (Keyword.allOf intentConditionals).admits
      (.obj (basePayload session "read_result" "success" summary components [tool]
        denialReasonClass jobId none readings)) = true := by
  have hresult : Schema.accepts [statusIs "success", auditToolPath 1]
      (.obj (basePayload session "read_result" "success" summary components [tool]
        denialReasonClass jobId none readings)) = true := by
    simp [Schema.accepts_of_isOpen, Keyword.isOpen, basePayload, audit, List.lookup_cons, statusIs,
      auditToolPath, Keyword.admits_type, Json.hasType]
  have hintent : (basePayload session "read_result" "success" summary components [tool]
      denialReasonClass jobId none readings).lookup "intent_class" =
        some (.str "read_result") := rfl
  rw [Keyword.admits_allOf, intentConditionals]
  simp [accepts_ifThen, accepts_memberIs hintent, hresult, accepts_other hcards]

/-- The conditionals admit the answer that a job is pending. -/
theorem admits_pending {id token : String}
    (hcards : ∀ c ∈ components, Schema.accepts confirmationCardComponent c = false)
    (hid : wordAfter "job_" id = true) (htoken : 16 ≤ token.length) :
    (Keyword.allOf intentConditionals).admits
      (.obj (basePayload session "read_pending" "pending" summary components toolPath
        denialReasonClass (some id) (some token) readings)) = true := by
  have hpending : Schema.accepts
      [.required ["job_id", "job_poll_token"],
       .property "job_id" [.type [.string], .pattern (wordAfter "job_")],
       .property "job_poll_token" [.type [.string], .minLength 16],
       statusIs "pending", noActions, auditToolPath 0]
      (.obj (basePayload session "read_pending" "pending" summary components toolPath
        denialReasonClass (some id) (some token) readings)) = true := by
    simp [Schema.accepts_of_isOpen, Keyword.isOpen, basePayload, audit, List.lookup_cons, statusIs,
      auditToolPath, noActions, Keyword.admits_type, Json.hasType, Json.strOrNull, hid, htoken]
  have hintent : (basePayload session "read_pending" "pending" summary components toolPath
      denialReasonClass (some id) (some token) readings).lookup "intent_class" =
        some (.str "read_pending") := rfl
  rw [Keyword.admits_allOf, intentConditionals]
  simp [accepts_ifThen, accepts_memberIs hintent, hpending, accepts_other hcards]

end BasePayload

/-! ### The payloads of a request -/

theorem wordAfter_jobId (draws : Draws) : wordAfter "job_" draws.jobId = true := by
  have hdigit : ∀ digit : Fin 16, (Nat.digitChar digit).isAlphanum = true := by decide
  refine wordAfter_stamp _ fun c hc => ?_
  obtain ⟨i, rfl⟩ := List.mem_ofFn.mp hc
  exact hdigit _

variable {session : SessionState} {draws : Draws} {readings : Readings} {jobId : Option String}
  {shown : Prop}

/-- The builder takes the payload of a read exactly if the contract takes the session and what is
shown. -/
theorem readResultPayload_accepted_iff (hresult : Answers result shown)
    (hjob : ∀ id ∈ jobId, wordAfter "job_" id = true) :
    (∃ envelope, buildResponseEnvelope (readResultPayload session result jobId readings) =
        .ok envelope) ↔
      session.FitsContract ∧ shown := by
  obtain ⟨toolName, summary, components, rfl, htool, hsummary, hne, hcards, hshown⟩ := hresult
  have hpayload :
      readResultPayload session (readResult toolName summary components) jobId readings =
      basePayload session "read_result" "success" summary components [toolName] "none" jobId none
        readings := rfl
  rw [hpayload, exists_envelope_iff hne, accepts_basePayload_iff (admits_readResult hcards)
    (by decide) (by decide) hsummary hne (by simpa using htool) (by decide) hjob nofun, hshown]

theorem staleResult_accepted_iff (hjob : ∀ id ∈ jobId, wordAfter "job_" id = true) :
    (∃ envelope, buildResponseEnvelope (readResultPayload session staleResult jobId readings) =
        .ok envelope) ↔
      session.FitsContract := by
  have hcards : ∀ c ∈ [notice "msg-chat-read"
      "Shipment context changed. Refresh before taking further action." "warning"],
      Schema.accepts confirmationCardComponent c = false :=
    List.forall_mem_singleton.mpr (component_rejects rfl (by decide))
  have hpayload : readResultPayload session staleResult jobId readings =
      basePayload session "read_result" "success"
        "Shipment context changed. Refresh before taking further action."
        [notice "msg-chat-read" "Shipment context changed. Refresh before taking further action."
          "warning"] ["shipment_exception_lookup"] "stale_state" jobId none readings := rfl
  rw [hpayload, exists_envelope_iff (List.cons_ne_nil _ _),
    accepts_basePayload_iff (admits_readResult hcards) (by decide) (by decide) (by decide)
      (List.cons_ne_nil _ _) (by simp) (by decide) hjob nofun]
  simp [accepts_notice_iff]

theorem pendingPayload_accepted_iff {jobPollToken : AccessToken} {id : String}
    (hjob : wordAfter "job_" id = true) :
    (∃ envelope, buildResponseEnvelope (pendingPayload session id jobPollToken readings) =
        .ok envelope) ↔
      session.FitsContract := by
  have hcards : ∀ c ∈ [notice "msg-job-pending"
      "Background refresh started for the Memphis exception view." "informational"],
      Schema.accepts confirmationCardComponent c = false :=
    List.forall_mem_singleton.mpr (component_rejects rfl (by decide))
  have htoken : 16 ≤ jobPollToken.1.length := by rw [jobPollToken.2]; decide
  rw [pendingPayload, exists_envelope_iff (List.cons_ne_nil _ _),
    accepts_basePayload_iff (admits_pending hcards hjob htoken) (by decide) (by decide) (by decide)
      (List.cons_ne_nil _ _) (by simp) (by decide) (by simpa using hjob) (by simpa using htoken)]
  simp [accepts_notice_iff]

/-- The condition on the database, unless the binding is stale. -/
def Shown (host : Host) (db : Database) (prompt : String) (session : SessionState)
    (identity : TrustedIdentity) : Prop :=
  session.contextBindingState = "stale" ∨
    PrimaryHasEvents host db identity.officeId (readCall session prompt)

/-- The builder takes the payload of what is read for a request exactly if the contract takes the
session and what is shown. -/
theorem readPayload_accepted_iff {prompt : String} {identity : TrustedIdentity}
    (hread : readResultForRequest host db prompt session identity = .ok result)
    (hjob : ∀ id ∈ jobId, wordAfter "job_" id = true) :
    (∃ envelope, buildResponseEnvelope (readResultPayload session result jobId readings) =
        .ok envelope) ↔
      session.FitsContract ∧ Shown host db prompt session identity := by
  rw [readResultForRequest] at hread
  split_ifs at hread with hstale
  · cases hread
    rw [staleResult_accepted_iff hjob, iff_self_and]
    exact fun _ => .inl hstale
  · rw [readResultPayload_accepted_iff (answers_executeAllowlistedRead hread) hjob, Shown,
      or_iff_right hstale]

/-- **Which answers fit the contract.** The builder takes all payloads of a request exactly if the
contract takes the session and, unless the binding is stale, the first shipment of an exception view
has events. -/
theorem payloads_accepted_iff {lower : String → String} {prompt : String}
    {identity : TrustedIdentity}
    (hread : readResultForRequest host db prompt session identity = .ok result) :
    (∀ payload ∈ payloads lower prompt session result draws,
        ∃ envelope, buildResponseEnvelope payload = .ok envelope) ↔
      session.FitsContract ∧ Shown host db prompt session identity := by
  have hjob := wordAfter_jobId draws
  rw [payloads]
  split_ifs
  · rw [List.forall_mem_cons, List.forall_mem_singleton,
      readPayload_accepted_iff hread (by simpa using hjob), pendingPayload_accepted_iff hjob]
    exact and_iff_left_of_imp And.left
  · rw [List.forall_mem_singleton]
    exact readPayload_accepted_iff hread fun _ => nofun

/-! ### The sessions of requests -/

section Requests

variable {lower : String → String} {store : SessionStore} {request : ChatRequest}
  {identity : TrustedIdentity} {now : UtcTime} {token : AccessToken}

theorem scopeForResource_mem_iff {resource : Option ActiveResourceBinding} {prompt : String} :
    scopeForResource lower resource prompt ∈ conversationScopes ↔
      ∀ r ∈ resource, r.resourceType ≠ .session := by
  cases resource with
  | none =>
    have hscope : scopeForResource lower none prompt ∈ ["analytics", "office"] :=
      scopeForResource_none prompt
    refine iff_of_true ?_ nofun
    exact (by decide : ["analytics", "office"] ⊆ conversationScopes) hscope
  | some resource =>
    cases hr : resource.resourceType <;>
      simp [scopeForResource, hr, ResourceType.text, conversationScopes]

/-- What a session must bring along, besides what the request decides, to fit the contract. -/
theorem fitsContract_iff (hrole : identity.role = "broker")
    (hsession : sessionStateForRequest lower store request identity now token = some session) :
    session.FitsContract ↔
      (∀ resource ∈ session.activeResource, resource.resourceType ≠ .session ∧
        resource.resourceId ≠ "" ∧ resource.resourceFingerprint ≠ "") ∧
      identity.officeId ≠ "" ∧ 16 ≤ session.sessionAccessToken.length ∧
      wordAfter "chat_s_" session.sessionId = true := by
  obtain ⟨-, hoffice, hrole', hscope, hbinding, hsync⟩ := sessionStateForRequest_spec hsession
  constructor
  · intro h
    have hresource := h.conversationScope
    rw [hscope, scopeForResource_mem_iff] at hresource
    exact ⟨fun r hr => ⟨hresource r hr, h.activeResource r hr⟩, hoffice ▸ h.officeId,
      h.sessionAccessToken, h.sessionId⟩
  · rintro ⟨hresource, hne, htoken, hid⟩
    refine ⟨hid, htoken, hrole'.trans hrole, hoffice ▸ hne, ?_, ?_, by simp [hsync],
      fun r hr => (hresource r hr).2⟩
    · rw [hscope, scopeForResource_mem_iff]
      exact fun r hr => (hresource r hr).1
    · exact (by decide : ["bound", "missing", "stale"] ⊆ ["bound", "partial", "stale", "missing"])
        hbinding

/-- **Which chat answers fit the contract.** For every request of a broker and every stored session,
the builder takes all payloads exactly if the active resource of the session is not of the type
`session` and has an id and a fingerprint, the office has an id, the session has an id and a token
as the contract wants them and, unless the binding is stale, the first shipment of an exception view
has events. -/
theorem answers_accepted_iff (hrole : identity.role = "broker")
    (hsession : sessionStateForRequest host.py.lower store request identity now token =
      some session)
    (hread : readResultForRequest host db request.prompt session identity = .ok result) :
    (∀ payload ∈ payloads host.py.lower request.prompt session result draws,
        ∃ envelope, buildResponseEnvelope payload = .ok envelope) ↔
      (∀ resource ∈ session.activeResource, resource.resourceType ≠ .session ∧
        resource.resourceId ≠ "" ∧ resource.resourceFingerprint ≠ "") ∧
      identity.officeId ≠ "" ∧ 16 ≤ session.sessionAccessToken.length ∧
      wordAfter "chat_s_" session.sessionId = true ∧
      Shown host db request.prompt session identity := by
  rw [payloads_accepted_iff hread, fitsContract_iff hrole hsession]
  simp only [and_assoc]

/-- For the sessions that requests store, only the type of the resource, the office and the events
matter. -/
theorem answers_accepted_iff_of_reachable {brokersForOffice : String → List String}
    (hreach : Reachable (postChat host.py.lower brokersForOffice) .empty store)
    (hrole : identity.role = "broker")
    (hsession : sessionStateForRequest host.py.lower store request identity now token =
      some session)
    (hread : readResultForRequest host db request.prompt session identity = .ok result) :
    (∀ payload ∈ payloads host.py.lower request.prompt session result draws,
        ∃ envelope, buildResponseEnvelope payload = .ok envelope) ↔
      (∀ resource ∈ session.activeResource, resource.resourceType ≠ .session) ∧
      identity.officeId ≠ "" ∧ Shown host db request.prompt session identity := by
  have hwf : session.WellFormed := sessionStateForRequest_wellFormed hrole
    (fun _ _ => wellFormed_of_reachable hreach) hsession
  have htoken : 16 ≤ session.sessionAccessToken.length := by rw [hwf.sessionAccessToken]; decide
  rw [payloads_accepted_iff hread, fitsContract_iff hrole hsession]
  constructor
  · rintro ⟨⟨hresource, hoffice, -, -⟩, hshown⟩
    exact ⟨fun r hr => (hresource r hr).1, hoffice, hshown⟩
  · rintro ⟨hresource, hoffice, hshown⟩
    exact ⟨⟨fun r hr => ⟨hresource r hr, hwf.activeResource r hr⟩, hoffice, htoken, hwf.sessionId⟩,
      hshown⟩

end Requests

section Memphis

/-! New sessions of a broker. -/

def memphisDraws : Draws :=
  ⟨.first, fun _ => 0, (memphisChat none).token, memphisReadings, memphisReadings⟩

/-- The session of a new chat. -/
def newSession (prompt : String) (resource : Option ActiveResourcePayload) : SessionState :=
  { sessionId := sessionIdAt .first 1
    sessionAccessToken := (memphisChat resource).token
    brokerId := "broker-123"
    officeId := "memphis"
    role := "broker"
    conversationScope := scopeForResource asciiHost.py.lower
      (resource.map ActiveResourcePayload.normalize) prompt
    contextBindingState := if resource.isSome then "bound" else "missing"
    screenSyncState := "not_applicable"
    activeResource := resource.map ActiveResourcePayload.normalize }

/-- The chat is new, its read returns, and the condition says whether it is answered. -/
def AnsweredIf (db : Database) (prompt : String) (resource : Option ActiveResourcePayload)
    (answered : Prop) : Prop :=
  ∃ session result,
    sessionStateForRequest asciiHost.py.lower .empty ⟨prompt, none, none, resource⟩ memphisIdentity
      .first (memphisChat resource).token = some session ∧
    readResultForRequest asciiHost db prompt session memphisIdentity = .ok result ∧
    ((∀ payload ∈ payloads asciiHost.py.lower prompt session result memphisDraws,
      ∃ envelope, buildResponseEnvelope payload = .ok envelope) ↔ answered)

/-- A delayed shipment without events. -/
def delayedShipment : Database :=
  { memphisShipment .empty with
    shipments :=
      ⟨[⟨"ship-1", "memphis", "broker-123", "carrier-1", none, "Southeast", "Midwest",
        "FTL", "in_transit", some "delay", 30, "2026-03-13T14:00:00Z", "2026-03-12T14:00:00Z"⟩],
        by decide⟩ }

/-- A resource of the type `session`. -/
def sessionResource : ActiveResourcePayload := ⟨.session, "chat", none, by decide, by decide⟩

theorem sessionStateForRequest_new (prompt : String) (resource : Option ActiveResourcePayload) :
    sessionStateForRequest asciiHost.py.lower .empty ⟨prompt, none, none, resource⟩
      memphisIdentity .first (memphisChat resource).token = some (newSession prompt resource) := by
  cases resource <;> rfl

theorem exists_ok_of_isSome {ε α : Type*} {x : Except ε α} (h : x.toOption.isSome = true) :
    ∃ a, x = .ok a := by
  cases x with
  | error e => cases h
  | ok a => exact ⟨a, rfl⟩

end Memphis

/-- Where there are no shipments, a question about delays is answered. -/
theorem answers_accepted_iff_no_shipments : AnsweredIf .empty "Show delays" none True := by
  obtain ⟨result, hread⟩ : ∃ result, readResultForRequest asciiHost .empty "Show delays"
      (newSession "Show delays" none) memphisIdentity = .ok result :=
    exists_ok_of_isSome (by decide +kernel)
  have hrows : exceptionRows asciiHost .empty "memphis"
      (readCall (newSession "Show delays" none) "Show delays") = .ok [] := by decide +kernel
  refine ⟨_, result, sessionStateForRequest_new _ none, hread, iff_true_intro ?_⟩
  refine (answers_accepted_iff rfl (sessionStateForRequest_new _ none) hread).mpr
    ⟨nofun, by decide, by decide +kernel, by decide +kernel, .inr fun _ rows h => ?_⟩
  cases hrows.symm.trans h
  nofun

/-- **Two questions that are not answered.** The contract takes neither the scope of a session with
a resource of the type `session` nor the empty timeline of a shipment without events. -/
theorem answers_refused :
    AnsweredIf .empty "Show delays" (some sessionResource) False ∧
      AnsweredIf delayedShipment "Show delays" none False := by
  constructor
  · obtain ⟨result, hread⟩ : ∃ result, readResultForRequest asciiHost .empty "Show delays"
        (newSession "Show delays" (some sessionResource)) memphisIdentity = .ok result :=
      exists_ok_of_isSome (by decide +kernel)
    refine ⟨_, result, sessionStateForRequest_new _ _, hread, iff_false_intro fun h => ?_⟩
    have hfits := ((payloads_accepted_iff hread).mp h).1.conversationScope
    exact absurd hfits (by decide)
  · obtain ⟨result, hread⟩ : ∃ result, readResultForRequest asciiHost delayedShipment "Show delays"
        (newSession "Show delays" none) memphisIdentity = .ok result :=
      exists_ok_of_isSome (by decide +kernel)
    refine ⟨_, result, sessionStateForRequest_new _ none, hread, iff_false_intro fun h => ?_⟩
    have hrows : exceptionRows asciiHost delayedShipment "memphis"
        (readCall (newSession "Show delays" none) "Show delays") =
          .ok (delayedShipment.shipmentsWithCarriers "memphis") := by decide +kernel
    obtain hstale | hevents := ((payloads_accepted_iff hread).mp h).2
    · exact absurd hstale (by decide)
    · exact hevents (by decide +kernel) _ hrows _ rfl rfl

end Chat

end Meridian.Api
