import Meridian.Evals.Contract
import Meridian.Foundations.Text
import Mathlib.Algebra.GroupWithZero.Nat

/-!
# The assertions of an eval case

What `evals/runner.py` reads of the captures of a case: one check for each assertion of the catalog,
and `_assertion_results`. A check dereferences the captures as it goes and stops where `and` and
`or` stop, so it raises only on what it reaches.

## Main definitions

* `Meridian.Evals.Captures`: the captures.
* `Meridian.Evals.assertionChecks`: the checks by the names of their assertions.
* `Meridian.Evals.assertionResults`: the results.
* `Meridian.Evals.AssertionReadable`: what an assertion needs to find.

## Main results

* `Meridian.Evals.returns_assertionResults_iff`: over a response with readable parts, they are
  evaluated without an exception exactly if they find it.
-/

namespace Meridian.Evals

open Foundations

variable {F : Type}

/-! ### Captures -/

/-- What rests on binary floating point, on the Unicode tables or on the file system. -/
structure EvalHost (F : Type) extends PythonText F where
  /-- `text.lower()`. -/
  lower : String → String
  /-- Equality of floats as containers compare them. -/
  sameFloat : F → F → Bool
  /-- Whether a float is less than all that are finite. -/
  isNegInfinity : F → Bool
  evalContractPath : String
  responseContractPath : String

namespace EvalHost

variable (host : EvalHost F)

/-- `bool(x)`. -/
def truthy (x : Loaded F) : Bool := x.truthy host.toPythonText

/-- `str(x)`. -/
def text (x : Loaded F) : String := x.text host.toPythonText

/-- `x == y`. -/
def eq (x y : Loaded F) : Bool := x.eq host.toPythonText host.sameFloat y

end EvalHost

/-- The captures of a case, without what is not a `dict`. -/
structure Captures (F : Type) where
  response : Option (Fields F)
  job : Option (Fields F)
  writeResult : Option (Fields F)
  writeReplay : Option (Fields F)
  latencyMs : Loaded F

/-- `_captured_response`. -/
def capturedResponse (case : Fields F) : Option (Fields F) := dict? (get case "captured_response")

/-- `_captured_job`. -/
def capturedJob (case : Fields F) : Option (Fields F) := dict? (get case "captured_job")

/-- `_captured_write_result`. -/
def capturedWriteResult (case : Fields F) : Option (Fields F) :=
  dict? (get case "captured_write_result")

/-- `_captured_write_replay`. -/
def capturedWriteReplay (case : Fields F) : Option (Fields F) :=
  dict? (get case "captured_write_replay")

/-- The captures of a case. -/
def captures (case : Fields F) : Captures F where
  response := capturedResponse case
  job := capturedJob case
  writeResult := capturedWriteResult case
  writeReplay := capturedWriteReplay case
  latencyMs := get case "captured_latency_ms"

/-- The items of a list that are `dict`s. -/
def dicts : Loaded F → List (Fields F)
  | .list items => items.filterMap dict?
  | _ => []

/-- `_response_components`. -/
def Captures.components (c : Captures F) : List (Fields F) :=
  dicts (get (c.response.getD []) "components")

/-- `_response_actions`. -/
def Captures.actions (c : Captures F) : List (Fields F) :=
  dicts (get (c.response.getD []) "actions")

/-! ### Reading -/

/-- `fields.get(name, {})` with a `get` of that. -/
def part (fields : Fields F) (name : String) : Except EvalError (Fields F) :=
  match fields.lookup name with
  | none => .ok []
  | some (.dict part) => .ok part
  | some _ => .error .attributeError

/-- A test of `fields.get(name, {})`. -/
def inPart (fields : Fields F) (name : String) (p : Fields F → Bool) : Except EvalError Bool := do
  return p (← part fields name)

/-- A `for` loop over `fields.get(name, [])`. -/
def iterate (fields : Fields F) (name : String) : Except EvalError (List (Loaded F)) :=
  match fields.lookup name with
  | none => .ok []
  | some x => x.iter.mapError fun _ => .typeError

/-- `x == "text"`. -/
def isText (x : Loaded F) (text : String) : Bool := str? x = some text

/-- `response and ...`. -/
def Captures.ifResponse (c : Captures F) (test : Fields F → Except EvalError Bool) :
    Except EvalError Bool :=
  match c.response with
  | none | some [] => .ok false
  | some response => test response

/-- `write_result and ...`. -/
def Captures.ifWriteResult (c : Captures F) (test : Fields F → Except EvalError Bool) :
    Except EvalError Bool :=
  match c.writeResult with
  | none | some [] => .ok false
  | some writeResult => test writeResult

/-! ### The checks -/

section Checks

variable (host : EvalHost F) (c : Captures F)

/-- `permission_context_applied`. -/
def permissionContextApplied : Except EvalError Bool :=
  c.ifResponse fun response =>
    inPart response "policy" fun policy => host.truthy (get policy "permission_context_applied")

/-- `session_metadata_present`. -/
def sessionMetadataPresent : Except EvalError Bool :=
  c.ifResponse fun response =>
    .ok (host.truthy (get response "session_id") && host.truthy (get response "trace_id")) <&&>
      inPart response "audit" fun audit => host.truthy (get audit "response_generated_at")

/-- `async_job_id_present`. -/
def asyncJobIdPresent : Except EvalError Bool :=
  c.ifResponse fun response => .ok (host.truthy (get response "job_id"))

/-- `trace_linked_async_completion`. -/
def traceLinkedAsyncCompletion : Except EvalError Bool :=
  c.ifResponse fun response =>
    .ok (host.truthy (get response "job_id") && host.truthy (get response "trace_id") &&
      c.job.any fun job =>
        !job.isEmpty && host.eq (get job "job_id") (get response "job_id") &&
          (dict? (get job "result")).any fun result =>
            host.eq (get job "completed_response_id") (get result "response_id") &&
              host.eq (get result "job_id") (get response "job_id") &&
              host.eq (get result "trace_id") (get response "trace_id"))

/-- `stale_binding_emitted`. -/
def staleBindingEmitted : Except EvalError Bool :=
  c.ifResponse fun response =>
    .ok (isText (get response "context_binding_state") "stale") <&&>
      inPart response "policy" fun policy => isText (get policy "denial_reason_class") "stale_state"

/-- Whether the summary mentions days. -/
def summaryMentionsDays (response : Fields F) : Bool :=
  Text.contains "days" (host.lower (host.text ((response.lookup "summary").getD (.str ""))))

/-- Whether a component has a metric for a range of dates. -/
def showsDateRange (component : Fields F) : Except EvalError Bool := do
  let metrics ← iterate component "metrics"
  return (metrics.filterMap dict?).any fun metric =>
    isText (get metric "label") "Date Range" && host.truthy (get metric "value")

/-- `bounded_date_range`. -/
def boundedDateRange : Except EvalError Bool :=
  c.ifResponse fun response =>
    .ok (summaryMentionsDays host response) <||> c.components.anyM (showsDateRange host)

/-- `bounded_limit`. -/
def boundedLimit : Except EvalError Bool :=
  .ok (!c.components.isEmpty && c.components.all fun component =>
    !isText (get component "component_type") "table" ||
      match get component "rows" with
      | .list rows => rows.length ≤ 5
      | _ => false)

/-- `no_sensitive_fields`. -/
def noSensitiveFields : Except EvalError Bool :=
  c.ifResponse fun response =>
    inPart response "policy" fun policy => host.truthy (get policy "sensitive_fields_redacted")

/-- `no_tool_execution`. -/
def noToolExecution : Except EvalError Bool :=
  c.ifResponse fun response =>
    inPart response "audit" fun audit => host.eq (get audit "tool_path") (.list [])

/-- `no_cross_office_data`. -/
def noCrossOfficeData : Except EvalError Bool :=
  c.ifResponse fun response =>
    .ok (isText (get response "status") "denied" &&
      c.components.all fun component => isText (get component "component_type") "message_block")

/-- `office_scope_enforced`. -/
def officeScopeEnforced : Except EvalError Bool :=
  c.ifResponse fun response =>
    inPart response "audit" fun audit => host.truthy (get audit "office_scope")

/-- Whether no column of a component is one of offices. -/
def hidesOffices (component : Fields F) : Except EvalError Bool := do
  let columns ← iterate component "columns"
  return (columns.filterMap dict?).all fun column =>
    !Text.contains "office" (host.lower (host.text ((column.lookup "key").getD (.str ""))))

/-- `no_cross_office_records`. -/
def noCrossOfficeRecords : Except EvalError Bool :=
  c.ifResponse fun response =>
    inPart response "audit" (fun audit => host.truthy (get audit "office_scope")) <&&>
      c.components.allM (hidesOffices host)

/-- Whether `float(n)` does not overflow. -/
def fitsFloat (n : ℤ) : Bool := n.natAbs < 2 ^ 1024 - 2 ^ 970

/-- `latency_under_budget`. The budget is a float, so rounding does not carry an integer over it. -/
def latencyUnderBudget : Except EvalError Bool :=
  match c.latencyMs with
  | .bool b => .ok ((if b then 1 else 0) ≤ evalContract.endToEndRead)
  | .int n =>
    if fitsFloat n then .ok (n ≤ evalContract.endToEndRead) else .error .overflowError
  | .float x =>
    match host.value x with
    | some q => .ok (q ≤ evalContract.endToEndRead)
    | none => .ok (host.isNegInfinity x)
  | _ => .ok false

/-- `confirmation_token_present`. -/
def confirmationTokenPresent : Except EvalError Bool :=
  c.ifResponse fun response =>
    .ok (isText (get response "status") "confirmation_required" &&
      (c.components.any (fun component => host.truthy (get component "confirmation_token")) ||
        c.actions.any fun action => host.truthy (get action "confirmation_token")))

/-- `no_write_without_confirmation`. -/
def noWriteWithoutConfirmation : Except EvalError Bool :=
  c.ifResponse fun response =>
    .ok (isText (get response "status") "confirmation_required" && c.writeResult.isNone &&
      c.writeReplay.isNone && c.actions.any fun action =>
        match get action "requires_confirmation" with
        | .bool b => b
        | _ => false)

/-- `audit_stub_present`. -/
def auditStubPresent : Except EvalError Bool :=
  c.ifResponse fun response =>
    inPart response "audit" fun audit =>
      host.eq (get audit "tool_path") (.list [.str "booking_create_prepare"]) &&
        host.truthy (get audit "response_generated_at") &&
        c.actions.any fun action =>
          host.truthy (get action "idempotency_key") &&
            (dict? (get action "permission_scope")).any fun scope =>
              host.truthy (get scope "office_id") && host.truthy (get scope "broker_id") &&
                host.truthy (get scope "role")

/-- `no_write_executed`. -/
def noWriteExecuted : Except EvalError Bool :=
  .ok (c.writeResult.isNone && c.writeReplay.isNone) <&&>
    match c.response with
    | none => .ok true
    | some response =>
      inPart response "audit" fun audit =>
        host.eq (get audit "tool_path") (.list []) ||
          host.eq (get audit "tool_path") (.list [.str "booking_create_prepare"])

/-- `denial_reason_permission`. -/
def denialReasonPermission : Except EvalError Bool :=
  c.ifResponse fun response =>
    inPart response "policy" fun policy => isText (get policy "denial_reason_class") "permission"

/-- `denial_reason_sensitive_field`. -/
def denialReasonSensitiveField : Except EvalError Bool :=
  c.ifResponse fun response =>
    inPart response "policy" fun policy =>
      isText (get policy "denial_reason_class") "sensitive_field"

/-- `denial_reason_unsupported_or_missing_confirmation`. -/
def denialReasonUnsupportedOrMissingConfirmation : Except EvalError Bool :=
  c.ifResponse fun response => do
    inTexts (get (← part response "policy") "denial_reason_class")
      ["unsupported_request", "missing_confirmation"]

/-- `confirmation_token_validated`. -/
def confirmationTokenValidated : Except EvalError Bool :=
  c.ifWriteResult fun writeResult =>
    .ok (isText (get writeResult "status") "submitted" &&
      isText (get writeResult "action_name") "booking_create_confirmed" &&
      host.truthy (get writeResult "quote_id") &&
      host.truthy (get writeResult "confirmation_token"))

/-- `resource_state_revalidated`. -/
def resourceStateRevalidated : Except EvalError Bool :=
  c.ifWriteResult fun writeResult =>
    .ok (isText (get writeResult "status") "submitted" &&
      host.truthy (get writeResult "office_id") && host.truthy (get writeResult "actor_broker_id"))

/-- `audit_record_present`. -/
def auditRecordPresent : Except EvalError Bool :=
  c.ifWriteResult fun writeResult =>
    .ok ((dict? (get writeResult "audit")).any fun audit =>
      host.truthy (get audit "tool_path") && host.truthy (get audit "idempotency_key") &&
        host.truthy (get audit "outcome") &&
        host.eq (get audit "actor_broker_id") (get writeResult "actor_broker_id") &&
        host.eq (get audit "office_id") (get writeResult "office_id"))

/-- `idempotent_replay_linked`. -/
def idempotentReplayLinked : Except EvalError Bool :=
  c.ifWriteResult fun writeResult =>
    match c.writeReplay with
    | none | some [] => .ok false
    | some writeReplay =>
      .ok (host.eq (.dict writeResult) (.dict writeReplay)) <&&> do
        let audit ← part writeResult "audit"
        let replayAudit ← part writeReplay "audit"
        return host.eq (get audit "idempotency_key") (get replayAudit "idempotency_key")

/-- `action_outcome_timestamp_present`. -/
def actionOutcomeTimestampPresent : Except EvalError Bool :=
  c.ifWriteResult fun writeResult =>
    inPart writeResult "audit" fun audit => host.truthy (get audit "outcome_recorded_at")

end Checks

/-- The cases of `_assertion_results`. -/
def assertionChecks : List (String × (EvalHost F → Captures F → Except EvalError Bool)) :=
  [("permission_context_applied", permissionContextApplied),
   ("session_metadata_present", sessionMetadataPresent),
   ("async_job_id_present", asyncJobIdPresent),
   ("trace_linked_async_completion", traceLinkedAsyncCompletion),
   ("stale_binding_emitted", fun _ => staleBindingEmitted),
   ("bounded_date_range", boundedDateRange),
   ("bounded_limit", fun _ => boundedLimit),
   ("no_sensitive_fields", noSensitiveFields),
   ("no_tool_execution", noToolExecution),
   ("no_cross_office_data", fun _ => noCrossOfficeData),
   ("office_scope_enforced", officeScopeEnforced),
   ("no_cross_office_records", noCrossOfficeRecords),
   ("latency_under_budget", latencyUnderBudget),
   ("confirmation_token_present", confirmationTokenPresent),
   ("no_write_without_confirmation", fun _ => noWriteWithoutConfirmation),
   ("audit_stub_present", auditStubPresent),
   ("no_write_executed", noWriteExecuted),
   ("denial_reason_permission", fun _ => denialReasonPermission),
   ("denial_reason_sensitive_field", fun _ => denialReasonSensitiveField),
   ("denial_reason_unsupported_or_missing_confirmation",
    fun _ => denialReasonUnsupportedOrMissingConfirmation),
   ("confirmation_token_validated", confirmationTokenValidated),
   ("resource_state_revalidated", resourceStateRevalidated),
   ("audit_record_present", auditRecordPresent),
   ("idempotent_replay_linked", idempotentReplayLinked),
   ("action_outcome_timestamp_present", actionOutcomeTimestampPresent)]

/-- The result of an assertion: one without a case does not hold. -/
def assertionResult (host : EvalHost F) (c : Captures F) (assertion : String) :
    Except EvalError Bool :=
  match assertionChecks.lookup assertion with
  | some check => check host c
  | none => .ok false

/-- `_assertion_results`. An assertion that is listed twice has the same result twice. -/
def assertionResults (host : EvalHost F) (case : Fields F) :
    Except EvalError (List (String × Bool)) :=
  (caseAssertions case).mapM fun assertion => do
    return (assertion, ← assertionResult host (captures case) assertion)

/-! ### What the assertions need to find -/

/-- What `fields.get(name, {})` gives is a `dict`. -/
def IsPart (fields : Fields F) (name : String) : Prop :=
  ∀ x, fields.lookup name = some x → ∃ part, x = .dict part

/-- A `for` loop can run through what `fields.get(name, [])` gives. -/
def IsIterable (fields : Fields F) (name : String) : Prop :=
  ∀ x, fields.lookup name = some x →
    (∃ items, x = .list items) ∨ (∃ text, x = .str text) ∨ ∃ fields, x = .dict fields

/-- A set can be asked for the value. -/
def IsHashable (x : Loaded F) : Prop := (∀ items, x ≠ .list items) ∧ ∀ fields, x ≠ .dict fields

/-- The policy and the audit of a response are `dict`s, if they are there. -/
structure PartsReadable (c : Captures F) : Prop where
  policy : ∀ response ∈ c.response, IsPart response "policy"
  audit : ∀ response ∈ c.response, IsPart response "audit"

/-- What an assertion needs to find besides readable parts of the response. -/
def AssertionReadable (host : EvalHost F) (c : Captures F) (assertion : String) : Prop :=
  match assertion with
  | "bounded_date_range" =>
    ∀ response ∈ c.response, summaryMentionsDays host response = false →
      ∀ component, Reached (showsDateRange host) true c.components component →
        IsIterable component "metrics"
  | "no_cross_office_records" =>
    ∀ response ∈ c.response, ∀ audit, part response "audit" = .ok audit →
      host.truthy (get audit "office_scope") = true →
        ∀ component, Reached (hidesOffices host) false c.components component →
          IsIterable component "columns"
  | "latency_under_budget" => ∀ n, c.latencyMs = .int n → fitsFloat n = true
  | "denial_reason_unsupported_or_missing_confirmation" =>
    ∀ response ∈ c.response, ∀ policy, part response "policy" = .ok policy →
      IsHashable (get policy "denial_reason_class")
  | "idempotent_replay_linked" =>
    ∀ writeResult ∈ c.writeResult, ∀ writeReplay ∈ c.writeReplay,
      host.eq (.dict writeResult) (.dict writeReplay) = true →
        IsPart writeResult "audit" ∧ IsPart writeReplay "audit"
  | "action_outcome_timestamp_present" =>
    ∀ writeResult ∈ c.writeResult, IsPart writeResult "audit"
  | _ => True

variable {host : EvalHost F} {c : Captures F} {fields : Fields F} {name assertion : String}

theorem isPart_nil : IsPart ([] : Fields F) name := nofun

@[simp] theorem returns_part : Returns (part fields name) ↔ IsPart fields name := by
  rw [part, IsPart]
  split
  · next h => exact iff_of_true ⟨[], rfl⟩ fun x hx => by rw [h] at hx; cases hx
  · next fields' h =>
    exact iff_of_true ⟨fields', rfl⟩ fun x hx => ⟨fields', Option.some.inj (hx.symm.trans h)⟩
  · next x hne h =>
    refine iff_of_false (not_returns_error _) fun hall => ?_
    obtain ⟨fields', rfl⟩ := hall x h
    exact hne fields' rfl

@[simp] theorem returns_inPart {p : Fields F → Bool} :
    Returns (inPart fields name p) ↔ IsPart fields name := by
  rw [inPart, bind_pure_comp, returns_map, returns_part]

theorem returns_iterate : Returns (iterate fields name) ↔ IsIterable fields name := by
  rw [iterate, IsIterable]
  split
  · next h => exact iff_of_true ⟨[], rfl⟩ fun x hx => by rw [h] at hx; cases hx
  · next x h =>
    simp only [h, Option.some.injEq, forall_eq']
    cases x with
    | list items => exact iff_of_true ⟨items, rfl⟩ (.inl ⟨items, rfl⟩)
    | str text => exact iff_of_true ⟨_, rfl⟩ (.inr (.inl ⟨text, rfl⟩))
    | dict fields' => exact iff_of_true ⟨_, rfl⟩ (.inr (.inr ⟨fields', rfl⟩))
    | _ => exact iff_of_false (not_returns_error _) (by simp)

theorem returns_inTexts {x : Loaded F} {texts : List String} :
    Returns (inTexts x texts) ↔ IsHashable x := by
  cases x <;> simp [inTexts, IsHashable]

@[simp] theorem returns_ifResponse {test : Fields F → Except EvalError Bool} :
    Returns (c.ifResponse test) ↔
      ∀ response ∈ c.response, response ≠ [] → Returns (test response) := by
  rw [Captures.ifResponse]
  split
  · next h => simp [h]
  · next h => simp [h]
  · next response hne h =>
    have hne' : response ≠ [] := hne
    simp [h, hne']

@[simp] theorem returns_ifWriteResult {test : Fields F → Except EvalError Bool} :
    Returns (c.ifWriteResult test) ↔
      ∀ writeResult ∈ c.writeResult, writeResult ≠ [] → Returns (test writeResult) := by
  rw [Captures.ifWriteResult]
  split
  · next h => simp [h]
  · next h => simp [h]
  · next writeResult hne h =>
    have hne' : writeResult ≠ [] := hne
    simp [h, hne']

theorem returns_showsDateRange : Returns (showsDateRange host fields) ↔
    IsIterable fields "metrics" := by
  rw [showsDateRange, bind_pure_comp, returns_map, returns_iterate]

theorem returns_hidesOffices : Returns (hidesOffices host fields) ↔
    IsIterable fields "columns" := by
  rw [hidesOffices, bind_pure_comp, returns_map, returns_iterate]

/-! ### The checks that read more than the parts of the response -/

theorem returns_boundedDateRange_iff : Returns (boundedDateRange host c) ↔
    AssertionReadable host c "bounded_date_range" := by
  rw [boundedDateRange, returns_ifResponse, AssertionReadable]
  refine forall₂_congr fun response hresponse => ?_
  rw [ok_orM]
  cases hdays : summaryMentionsDays host response with
  | true => simp
  | false =>
    simp only [Bool.false_eq_true, if_false, returns_anyM, returns_showsDateRange, forall_const]
    refine ⟨fun h component hreached => h ?_ component hreached, fun h _ => h⟩
    rintro rfl
    have hnone : c.components = [] := by
      rw [Captures.components, Option.mem_def.mp hresponse]
      rfl
    obtain ⟨before, after, hsplit, -⟩ := hreached
    rw [hnone] at hsplit
    cases before <;> cases hsplit

theorem returns_noCrossOfficeRecords_iff (h : PartsReadable c) :
    Returns (noCrossOfficeRecords host c) ↔
      AssertionReadable host c "no_cross_office_records" := by
  rw [noCrossOfficeRecords, returns_ifResponse, AssertionReadable]
  refine forall₂_congr fun response hresponse => ?_
  obtain ⟨audit, haudit⟩ := returns_part.mpr (h.audit response hresponse)
  have hscope : inPart response "audit" (fun audit => host.truthy (get audit "office_scope")) =
      .ok (host.truthy (get audit "office_scope")) := by
    rw [inPart, haudit]
    rfl
  rw [hscope, ok_andM]
  simp only [haudit, Except.ok.injEq, forall_eq']
  cases hoffice : host.truthy (get audit "office_scope") with
  | false => simp
  | true =>
    simp only [if_true, returns_allM, returns_hidesOffices, forall_const]
    refine ⟨fun h component hreached => h ?_ component hreached, fun h _ => h⟩
    rintro rfl
    obtain rfl : audit = [] := (Except.ok.inj haudit).symm
    cases hoffice

theorem returns_latencyUnderBudget_iff : Returns (latencyUnderBudget host c) ↔
    AssertionReadable host c "latency_under_budget" := by
  rw [latencyUnderBudget, AssertionReadable]
  cases c.latencyMs with
  | int n =>
    simp only [Loaded.int.injEq, forall_eq']
    cases fitsFloat n <;> simp
  | float x => cases hvalue : host.value x <;> simp [hvalue]
  | _ => simp

theorem returns_denialReason_iff (h : PartsReadable c) :
    Returns (denialReasonUnsupportedOrMissingConfirmation c) ↔
      AssertionReadable host c "denial_reason_unsupported_or_missing_confirmation" := by
  rw [denialReasonUnsupportedOrMissingConfirmation, returns_ifResponse, AssertionReadable]
  refine forall₂_congr fun response hresponse => ?_
  obtain ⟨policy, hpolicy⟩ := returns_part.mpr (h.policy response hresponse)
  simp only [hpolicy, Except.ok.injEq, forall_eq', ok_bind, returns_inTexts]
  refine ⟨fun h => ?_, fun h _ => h⟩
  by_cases hne : response = []
  · subst hne
    obtain rfl : policy = [] := (Except.ok.inj hpolicy).symm
    exact ⟨nofun, nofun⟩
  · exact h hne

theorem length_eq_of_eq_dict {fields' : Fields F}
    (h : host.eq (.dict fields) (.dict fields') = true) : fields.length = fields'.length := by
  simp only [EvalHost.eq, Loaded.eq, Bool.and_eq_true, decide_eq_true_eq] at h
  exact h.1

theorem returns_idempotentReplayLinked_iff : Returns (idempotentReplayLinked host c) ↔
    AssertionReadable host c "idempotent_replay_linked" := by
  rw [idempotentReplayLinked, returns_ifWriteResult, AssertionReadable]
  refine forall₂_congr fun writeResult _ => ?_
  cases c.writeReplay with
  | none => simp
  | some writeReplay =>
    simp only [Option.mem_def, Option.some.injEq, forall_eq']
    cases writeReplay with
    | nil =>
      refine iff_of_true (fun _ => ⟨false, rfl⟩) fun heq => ?_
      rw [List.length_eq_zero_iff.mp (length_eq_of_eq_dict heq)]
      exact ⟨isPart_nil, isPart_nil⟩
    | cons member writeReplay =>
      simp only [ok_andM]
      cases heq : host.eq (.dict writeResult) (.dict (member :: writeReplay)) with
      | false => simp
      | true =>
        have hne : writeResult ≠ [] := by
          rintro rfl
          cases length_eq_of_eq_dict heq
        simp only [if_true, hne, ne_eq, not_false_iff, true_imp_iff, ← returns_part, returns_bind,
          returns_pure, and_true]
        exact exists_and_right

theorem returns_actionOutcomeTimestampPresent_iff :
    Returns (actionOutcomeTimestampPresent host c) ↔
      AssertionReadable host c "action_outcome_timestamp_present" := by
  simp only [actionOutcomeTimestampPresent, returns_ifWriteResult, returns_inPart,
    AssertionReadable]
  refine forall₂_congr fun writeResult _ => ⟨fun h => ?_, fun h _ => h⟩
  by_cases hne : writeResult = []
  · exact hne ▸ isPart_nil
  · exact h hne

/-! ### All checks -/

theorem returns_noWriteExecuted (h : PartsReadable c) : Returns (noWriteExecuted host c) := by
  rw [noWriteExecuted, returns_ok_andM]
  intro _
  cases hresponse : c.response with
  | none => exact ⟨true, rfl⟩
  | some response => exact returns_inPart.mpr (h.audit response hresponse)

/-- **When an assertion is evaluated.** Over a response with readable parts, exactly if it finds
what it needs. -/
theorem returns_assertionResult_iff (h : PartsReadable c) :
    Returns (assertionResult host c assertion) ↔ AssertionReadable host c assertion := by
  rw [assertionResult]
  cases hlookup : assertionChecks.lookup assertion with
  | none =>
    refine iff_of_true ⟨false, rfl⟩ ?_
    unfold AssertionReadable
    split
    all_goals first
      | exact trivial
      | cases hlookup
  | some check =>
    obtain ⟨before, after, hsplit, -⟩ := List.lookup_eq_some_iff.mp hlookup
    have hmem : (assertion, check) ∈ assertionChecks (F := F) := by
      rw [hsplit]
      exact List.mem_append_right _ List.mem_cons_self
    simp only [assertionChecks, List.mem_cons, Prod.mk.injEq, List.not_mem_nil, or_false] at hmem
    rcases hmem with ⟨rfl, rfl⟩ | ⟨rfl, rfl⟩ | ⟨rfl, rfl⟩ | ⟨rfl, rfl⟩ | ⟨rfl, rfl⟩ | ⟨rfl, rfl⟩ |
      ⟨rfl, rfl⟩ | ⟨rfl, rfl⟩ | ⟨rfl, rfl⟩ | ⟨rfl, rfl⟩ | ⟨rfl, rfl⟩ | ⟨rfl, rfl⟩ | ⟨rfl, rfl⟩ |
      ⟨rfl, rfl⟩ | ⟨rfl, rfl⟩ | ⟨rfl, rfl⟩ | ⟨rfl, rfl⟩ | ⟨rfl, rfl⟩ | ⟨rfl, rfl⟩ | ⟨rfl, rfl⟩ |
      ⟨rfl, rfl⟩ | ⟨rfl, rfl⟩ | ⟨rfl, rfl⟩ | ⟨rfl, rfl⟩ | ⟨rfl, rfl⟩
    · exact iff_of_true (by simp +contextual [permissionContextApplied, h.policy]) trivial
    · exact iff_of_true
        (by simp +contextual [sessionMetadataPresent, returns_ok_andM, h.audit]) trivial
    · exact iff_of_true (by simp +contextual [asyncJobIdPresent]) trivial
    · exact iff_of_true (by simp +contextual [traceLinkedAsyncCompletion]) trivial
    · exact iff_of_true
        (by simp +contextual [staleBindingEmitted, returns_ok_andM, h.policy]) trivial
    · exact returns_boundedDateRange_iff
    · exact iff_of_true (by simp +contextual [boundedLimit]) trivial
    · exact iff_of_true (by simp +contextual [noSensitiveFields, h.policy]) trivial
    · exact iff_of_true (by simp +contextual [noToolExecution, h.audit]) trivial
    · exact iff_of_true (by simp +contextual [noCrossOfficeData]) trivial
    · exact iff_of_true (by simp +contextual [officeScopeEnforced, h.audit]) trivial
    · exact returns_noCrossOfficeRecords_iff h
    · exact returns_latencyUnderBudget_iff
    · exact iff_of_true (by simp +contextual [confirmationTokenPresent]) trivial
    · exact iff_of_true (by simp +contextual [noWriteWithoutConfirmation]) trivial
    · exact iff_of_true (by simp +contextual [auditStubPresent, h.audit]) trivial
    · exact iff_of_true (returns_noWriteExecuted h) trivial
    · exact iff_of_true (by simp +contextual [denialReasonPermission, h.policy]) trivial
    · exact iff_of_true (by simp +contextual [denialReasonSensitiveField, h.policy]) trivial
    · exact returns_denialReason_iff h
    · exact iff_of_true (by simp +contextual [confirmationTokenValidated]) trivial
    · exact iff_of_true (by simp +contextual [resourceStateRevalidated]) trivial
    · exact iff_of_true (by simp +contextual [auditRecordPresent]) trivial
    · exact returns_idempotentReplayLinked_iff
    · exact returns_actionOutcomeTimestampPresent_iff

/-- The assertions of a case are evaluated exactly if each finds what it needs. -/
theorem returns_assertionResults_iff {case : Fields F} (h : PartsReadable (captures case)) :
    Returns (assertionResults host case) ↔
      ∀ assertion ∈ caseAssertions case, AssertionReadable host (captures case) assertion := by
  rw [assertionResults, returns_mapM]
  refine forall₂_congr fun assertion _ => ?_
  rw [bind_pure_comp, returns_map, returns_assertionResult_iff h]

/-- Each assertion of a case has its result. -/
theorem lookup_assertionResults {case : Fields F} {results : List (String × Bool)}
    (h : assertionResults host case = .ok results) (hname : name ∈ caseAssertions case) :
    ∃ b, assertionResult host (captures case) name = .ok b ∧ results.lookup name = some b := by
  rw [assertionResults] at h
  generalize caseAssertions case = assertions at h hname
  induction assertions generalizing results with
  | nil => cases hname
  | cons assertion assertions ih =>
    rw [List.mapM_cons] at h
    simp only [bind_eq_ok] at h
    obtain ⟨_, ⟨b, hb, ⟨⟩⟩, rest, hrest, ⟨⟩⟩ := h
    rw [List.lookup_cons]
    by_cases heq : name = assertion
    · subst heq
      exact ⟨b, hb, by simp⟩
    · rw [beq_eq_false_iff_ne.mpr heq]
      exact ih hrest ((List.mem_cons.mp hname).resolve_left heq)

end Meridian.Evals
