import Meridian.Evals.Assertions
import Meridian.Responses.Contract
import Mathlib.Data.List.Dedup

/-!
# The release gates

`run_eval_case` and `score_release_gates` of `evals/runner.py`: the checks behind each of the six
gates, the result of a case with its evidence, and the score that is made of a result.

## Main definitions

* `Meridian.Evals.runEvalCase`: the result of a case.
* `Meridian.Evals.scoreReleaseGates`: the score of a result.

## Main results

* `Meridian.Evals.overall_eq_pass_iff`: the score of a case is `pass` exactly if its gates are.
* `Meridian.Evals.passing_score_sound`: what a passing score says about a case.
-/

namespace Meridian.Evals

open Foundations Responses

variable {F : Type}

/-! ### Assertions of the gates -/

/-- `REQUIRED_RELEASE_GATES`. -/
def requiredReleaseGates : List String :=
  ["permission_boundary", "query_quality", "write_confirmation", "structured_response",
   "auditability", "performance"]

/-- `PERMISSION_ASSERTIONS`. -/
def permissionAssertions : List String :=
  ["permission_context_applied", "denial_reason_permission", "denial_reason_sensitive_field",
   "denial_reason_unsupported_or_missing_confirmation"]

/-- `RESPONSE_ASSERTIONS`. -/
def responseAssertions : List String :=
  ["session_metadata_present", "async_job_id_present", "trace_linked_async_completion",
   "stale_binding_emitted"]

/-- `WRITE_ASSERTIONS`. -/
def writeAssertions : List String :=
  ["confirmation_token_present", "no_write_without_confirmation", "audit_stub_present",
   "no_write_executed", "confirmation_token_validated", "resource_state_revalidated",
   "audit_record_present", "idempotent_replay_linked", "action_outcome_timestamp_present"]

/-- `QUERY_ASSERTIONS`. -/
def queryAssertions : List String :=
  ["bounded_date_range", "bounded_limit", "no_sensitive_fields", "no_tool_execution",
   "no_cross_office_data", "office_scope_enforced", "no_cross_office_records"]

/-- The assertions of the audit gate. -/
def auditAssertions : List String :=
  ["session_metadata_present", "trace_linked_async_completion", "audit_stub_present",
   "audit_record_present", "action_outcome_timestamp_present"]

/-- The assertions of the performance gate. -/
def performanceAssertions : List String := ["latency_under_budget"]

/-- The assertions of a case that are of the given ones. -/
def selected (case : Fields F) (assertions : List String) : List String :=
  (caseAssertions case).filter (· ∈ assertions)

/-- The results of some assertions. -/
def resultsOf (results : List (String × Bool)) (assertions : List String) : List Bool :=
  assertions.map fun assertion => (results.lookup assertion).getD false

/-! ### Checks -/

section Checks

variable (host : EvalHost F) (case : Fields F) (results : List (String × Bool))

/-- `_response_contract_valid`. -/
def responseContractValid (response : Loaded F) : Bool :=
  match response with
  | .dict _ => agentResponse.accepts (response.toJson host.toPythonText)
  | _ => false

/-- The result in the captured job, if it is a `dict`. -/
def jobResult : Option (Fields F) := (capturedJob case).bind fun job => dict? (get job "result")

/-- Whether what has been captured satisfies the response contract. -/
def responseIsValid : Bool :=
  let captured := get case "captured_response"
  let valid := (match captured with
    | .none => true
    | _ => responseContractValid host captured)
  match jobResult case with
  | some result => valid && responseContractValid host (.dict result)
  | none => valid

/-- `str(case.get("expected_gate", "deny"))`. -/
def expectedGate : String := host.text ((case.lookup "expected_gate").getD (.str "deny"))

/-- `_write_result_matches_expected_gate`. -/
def writeResultMatchesExpectedGate (expectedGate : String) (writeResult : Option (Fields F)) :
    Bool :=
  match writeResult with
  | none => true
  | some writeResult =>
    if expectedGate = "allow" then isText (get writeResult "status") "submitted"
    else if expectedGate = "deny" then isText (get writeResult "status") "denied"
    else true

/-- `_expected_tool_path_matches` for a response that is there. -/
def expectedToolPathMatches (response : Fields F) : Except EvalError Bool :=
  match (case.lookup "expected_tool_path").getD (.list []) with
  | .list expected =>
    inPart response "audit" fun audit =>
      match get audit "tool_path" with
      | .list observed => host.eq (.list observed) (.list expected)
      | _ => false
  | _ => .ok false

/-- `_expected_components_match` for a response that is there. -/
def expectedComponentsMatch (response : Fields F) : Bool :=
  match (case.lookup "expected_response_components").getD (.list []),
      (response.lookup "components").getD (.list []) with
  | .list expected, .list components =>
    host.eq (.list ((components.filterMap dict?).map (get · "component_type"))) (.list expected)
  | _, _ => false

/-- The checks of the scope in which the response or the write result was made. -/
def scopeChecks : Except EvalError (List Bool) :=
  match capturedResponse case, capturedWriteResult case with
  | some response, _ => do
    let applied ← inPart response "policy" fun policy =>
      host.truthy (get policy "permission_context_applied")
    let officeScope ← inPart response "audit" fun audit => host.truthy (get audit "office_scope")
    return [applied, officeScope]
  | none, some writeResult =>
    .ok [host.truthy (get writeResult "office_id"),
      host.truthy (get writeResult "actor_broker_id")]
  | none, none => .ok []

/-- The checks of the permission gate. -/
def permissionChecks : Except EvalError (List Bool) := do
  return (← scopeChecks host case) ++ resultsOf results (selected case permissionAssertions)

/-- The checks of a response against what the case expects. -/
def expectationChecks : Except EvalError (List Bool) :=
  match capturedResponse case with
  | some response => do
    let toolPathMatches ← expectedToolPathMatches host case response
    return [toolPathMatches, expectedComponentsMatch host case response]
  | none => .ok []

/-- The checks of the query gate. -/
def queryChecks : Except EvalError (List Bool) := do
  return (← expectationChecks host case) ++ resultsOf results (selected case queryAssertions)

/-- The checks of the write gate. -/
def writeChecks : List Bool :=
  resultsOf results (selected case writeAssertions) ++
    [writeResultMatchesExpectedGate (expectedGate host case) (capturedWriteResult case)]

/-- The checks of the structured response gate. -/
def structuredChecks : Except EvalError (List Bool) := do
  let expectations ← expectationChecks host case
  let valid := if (capturedResponse case).isSome then [responseIsValid host case] else []
  let jobValid := match jobResult case with
    | some result => [responseContractValid host (.dict result)]
    | none => []
  return valid ++ expectations ++ jobValid ++ resultsOf results (selected case responseAssertions)

/-- The checks of the trace and the audit of the response. -/
def linkageChecks : Except EvalError (List Bool) :=
  match capturedResponse case with
  | some response => do
    let generated ← inPart response "audit" fun audit =>
      host.truthy (get audit "response_generated_at")
    let recorded ← inPart response "audit" fun audit =>
      match get audit "tool_path" with
      | .list _ => true
      | _ => false
    return [host.truthy (get response "trace_id"), generated, recorded]
  | none => .ok []

/-- The checks of the audit gate. -/
def auditChecks : Except EvalError (List Bool) := do
  return (← linkageChecks host case) ++ resultsOf results (selected case auditAssertions)

/-- The checks of the performance gate. -/
def performanceChecks : List Bool := resultsOf results (selected case performanceAssertions)

end Checks

/-! ### The result of a case -/

/-- `_gate_from_checks`. -/
def gateFromChecks (checks : List Bool) : String := if checks.all id then "pass" else "fail"

/-- `release_gate_results`. -/
structure GateResults where
  permissionBoundary : String
  queryQuality : String
  writeConfirmation : String
  structuredResponse : String
  auditability : String
  performance : String

/-- The members of `release_gate_results`. -/
def GateResults.toList (gates : GateResults) : List (String × String) :=
  [("permission_boundary", gates.permissionBoundary), ("query_quality", gates.queryQuality),
   ("write_confirmation", gates.writeConfirmation),
   ("structured_response", gates.structuredResponse), ("auditability", gates.auditability),
   ("performance", gates.performance)]

section Result

variable (host : EvalHost F) (case : Fields F) (results : List (String × Bool))

/-- The gates, from their checks; no checks pass, unless the response is not valid. -/
def gateResults : Except EvalError GateResults := do
  let permissionChecks ← permissionChecks host case results
  let queryChecks ← queryChecks host case results
  let structuredChecks ← structuredChecks host case results
  let auditChecks ← auditChecks host case results
  return {
    permissionBoundary := gateFromChecks permissionChecks
    queryQuality := gateFromChecks queryChecks
    writeConfirmation := gateFromChecks (writeChecks host case results)
    structuredResponse :=
      if structuredChecks.isEmpty then (if responseIsValid host case then "pass" else "fail")
      else gateFromChecks structuredChecks
    auditability := gateFromChecks auditChecks
    performance := gateFromChecks (performanceChecks case results) }

/-- A list of strings. -/
def texts (items : List String) : Loaded F := .list (items.map .str)

/-- `_evidence_record`. -/
def evidenceRecord (expectedGate : String) (assertionsChecked passFailCriteria : List String)
    (releaseGateFlag : String) : Loaded F :=
  .dict
    [("expected_gate", .str expectedGate),
     ("assertions_checked",
      texts (if assertionsChecked.isEmpty then ["not_in_scope"] else assertionsChecked)),
     ("pass_fail_criteria",
      texts (if passFailCriteria.isEmpty then ["not_applicable_to_case"] else passFailCriteria)),
     ("release_gate_flag", .str releaseGateFlag)]

/-- `release_gate_evidence`. -/
def releaseGateEvidence (gates : GateResults) : Fields F :=
  let hasResponse := (capturedResponse case).isSome
  let record := evidenceRecord (expectedGate host case)
  [("permission_boundary",
    record
      (if (selected case permissionAssertions).isEmpty then
        (if hasResponse then ["permission_context_applied"] else ["write_actor_scope_present"])
      else selected case permissionAssertions)
      (if hasResponse then ["permission-context-applied", "office-scope-recorded"]
      else ["write-result-scope-recorded"])
      gates.permissionBoundary),
   ("query_quality",
    record (selected case queryAssertions)
      ["expected-tool-path-matched", "expected-components-matched"] gates.queryQuality),
   ("write_confirmation",
    record (selected case writeAssertions) ["write-replay-evidence-linked"]
      gates.writeConfirmation),
   ("structured_response",
    record (selected case responseAssertions)
      ["response-contract-valid", "expected-components-matched"] gates.structuredResponse),
   ("auditability",
    record (selected case auditAssertions) ["trace-and-audit-linkage-present"]
      gates.auditability),
   ("performance",
    record (selected case performanceAssertions) ["latency-under-budget"] gates.performance)]

/-- `contract_validation`. -/
def contractValidation : Fields F :=
  [("eval_contract", .str host.evalContractPath),
   ("response_contract", .str host.responseContractPath),
   ("status", .str (if responseIsValid host case then "passed" else "failed"))] ++
    if responseIsValid host case then [] else [("failure_class", .str "response_contract")]

/-- What `run_eval_case` returns. -/
def evalResult (gates : GateResults) : Fields F :=
  [("scenario_id", .str (host.text ((case.lookup "scenario_id").getD (.str "unknown")))),
   ("release_gate_results", .dict (gates.toList.map fun gate => (gate.1, .str gate.2))),
   ("release_gate_evidence", .dict (releaseGateEvidence host case gates)),
   ("contract_validation", .dict (contractValidation host case))]

/-- `run_eval_case`. -/
def runEvalCase : Except EvalError (Fields F) := do
  validateEvalCase case
  let results ← assertionResults host case
  let gates ← gateResults host case results
  return evalResult host case gates

end Result

/-! ### The score of a result -/

/-- `sorted`. -/
def sorted (names : List String) : List String := names.mergeSort fun a b => a ≤ b

/-- What `score_release_gates` returns. -/
structure Score where
  overall : String
  pass : ℕ
  fail : ℕ
  total : ℕ
  missingGates : List String
  missingEvidenceGates : List String
  failedEvidenceGates : List String
  failedGates : List String

/-- A member of a result, if it is a `dict`, or else the empty one. -/
def dictOrEmpty (result : Fields F) (name : String) : Fields F :=
  (dict? (get result name)).getD []

/-- Whether the evidence for a gate is there and does not let it pass. -/
def evidenceFails (host : EvalHost F) (evidence : Fields F) (gate : String) : Bool :=
  (dict? (get evidence gate)).any fun gateEvidence =>
    !isText (get gateEvidence "release_gate_flag") "pass" ||
      !host.truthy (get gateEvidence "assertions_checked") ||
      !host.truthy (get gateEvidence "pass_fail_criteria")

/-- `score_release_gates`. -/
def scoreReleaseGates (host : EvalHost F) (result : Fields F) : Score :=
  let gates := dictOrEmpty result "release_gate_results"
  let evidence := dictOrEmpty result "release_gate_evidence"
  let missingGates := requiredReleaseGates.filter fun gate => (gates.lookup gate).isNone
  let missingEvidenceGates := requiredReleaseGates.filter fun gate => (evidence.lookup gate).isNone
  let failedEvidenceGates := (requiredReleaseGates.filter (evidenceFails host evidence)).dedup
  let failCount := gates.countP fun gate => !isText gate.2 "pass"
  { overall :=
      if failCount = 0 ∧ missingGates = [] ∧ missingEvidenceGates = [] ∧
          failedEvidenceGates = [] then "pass" else "fail"
    pass := gates.countP fun gate => isText gate.2 "pass"
    fail := failCount
    total := gates.length
    missingGates := sorted missingGates
    missingEvidenceGates := sorted missingEvidenceGates
    failedEvidenceGates := sorted failedEvidenceGates
    failedGates :=
      sorted (requiredReleaseGates.filter fun gate => !isText (get gates gate) "pass") }

variable {host : EvalHost F} {case response : Fields F} {results : List (String × Bool)}
  {gates : GateResults} {checks : List Bool} {name : String}

/-! ### What the contract says about a response -/

section Contract

variable {py : PythonText F} {x : Loaded F}

theorem get_of_item {fields : Fields F} (h : (Loaded.dict fields).item name = .ok x) :
    get fields name = x := by
  have hlookup : fields.lookup name = some x := Loaded.item_eq_ok.mp h
  rw [get, hlookup, Option.getD_some]

theorem exists_list_of_hasType (h : (x.toJson py).hasType .array = true) :
    ∃ items, x = .list items := by
  cases x with
  | list items => exact ⟨items, rfl⟩
  | _ => cases h

theorem exists_dict_of_hasType (h : (x.toJson py).hasType .object = true) :
    ∃ fields, x = .dict fields := by
  cases x with
  | dict fields => exact ⟨fields, rfl⟩
  | _ => cases h

/-- A value that a schema accepts has the type that the schema asks for. -/
theorem hasType_of_accepts {schema : Schema} {t : JsonType} {j : Json}
    (h : schema.accepts j = true) (htype : .type [t] ∈ schema) : j.hasType t = true := by
  obtain ⟨t', ht, hj⟩ := exists_hasType_of_accepts h htype
  rwa [List.mem_singleton.mp ht] at hj

theorem accepts_of_mem_items {schema item : Schema} {items : List (Loaded F)}
    (h : schema.accepts ((Loaded.list items).toJson py) = true) (hitems : .items item ∈ schema)
    (hx : x ∈ items) : item.accepts (x.toJson py) = true := by
  have hadmits := Schema.admits_of_accepts h hitems
  rw [Loaded.toJson, Loaded.toJsons_eq_map, Keyword.admits_items, List.all_eq_true] at hadmits
  exact hadmits _ (List.mem_map_of_mem hx)

/-- The tool path of a valid response is a list of strings. -/
theorem exists_toolPath (h : agentResponse.accepts ((Loaded.dict response).toJson py) = true) :
    ∃ audit, ∃ toolPath : List String, get response "audit" = .dict audit ∧
      get audit "tool_path" = .list (toolPath.map .str) := by
  obtain ⟨x, hx, haccepts, -⟩ := Loaded.exists_item "audit" auditSchema h (by decide) (by simp)
  obtain ⟨audit, rfl⟩ := exists_dict_of_hasType (hasType_of_accepts haccepts List.mem_cons_self)
  obtain ⟨y, hy, htoolPath, -⟩ := Loaded.exists_item "tool_path"
    [.type [.array], .items nonemptyString] haccepts (by decide) (by simp)
  obtain ⟨items, rfl⟩ := exists_list_of_hasType (hasType_of_accepts htoolPath List.mem_cons_self)
  have hstr : items.all (fun item => (str? item).isSome) = true := by
    rw [List.all_eq_true]
    intro item hitem
    have hnonempty : nonemptyString.accepts (item.toJson py) = true :=
      accepts_of_mem_items htoolPath (by simp) hitem
    rw [Loaded.eq_str_of_hasType (hasType_of_accepts hnonempty List.mem_cons_self)]
    rfl
  refine ⟨audit, items.filterMap str?, get_of_item hx, ?_⟩
  rw [get_of_item hy, ← filterMap_str? hstr]

theorem componentBase_of_component {componentType : String} {members : List String}
    {properties : Schema} {j : Json}
    (h : Schema.accepts (component componentType members properties) j = true) :
    componentBase.accepts j = true := by
  rw [component, accepts_closed_allOf, Bool.and_eq_true, List.all_cons, Bool.and_eq_true] at h
  exact h.1.1

/-- A component of a valid response is a `dict` and names its type. -/
theorem exists_componentType
    (h : Schema.accepts [.oneOf componentDefinitions] (x.toJson py) = true) :
    ∃ component componentType, x = .dict component ∧
      get component "component_type" = .str componentType := by
  have hone := Schema.admits_of_accepts h List.mem_cons_self
  rw [Keyword.admits_oneOf, decide_eq_true_eq] at hone
  obtain ⟨definition, hmem, haccepts⟩ := List.countP_pos_iff.mp (hone ▸ Nat.one_pos)
  have hbase : componentBase.accepts (x.toJson py) = true := by
    simp only [componentDefinitions, List.mem_cons, List.not_mem_nil, or_false] at hmem
    rcases hmem with rfl | rfl | rfl | rfl | rfl <;> exact componentBase_of_component haccepts
  obtain ⟨component, rfl⟩ := exists_dict_of_hasType (hasType_of_accepts hbase List.mem_cons_self)
  have htype : .property "component_type" [.type [.string]] ∈ componentBase := by
    simp [componentBase]
  obtain ⟨j, hj, hstring⟩ := Schema.exists_member hbase List.mem_cons_self
    (List.mem_cons_of_mem _ List.mem_cons_self) (List.mem_cons_of_mem _ List.mem_cons_self) htype
  rw [Loaded.get?_toJson, Option.map_eq_some_iff] at hj
  obtain ⟨y, hy, rfl⟩ := hj
  refine ⟨component, (y.toJson py).toStr, rfl, ?_⟩
  rw [get_of_item (Loaded.item_eq_ok.mpr hy)]
  exact Loaded.eq_str_of_hasType (hasType_of_accepts hstring List.mem_cons_self)

/-- The components of a valid response are `dict`s that name their types. -/
theorem exists_components (h : agentResponse.accepts ((Loaded.dict response).toJson py) = true) :
    ∃ components : List (Fields F), ∃ componentTypes : List String,
      get response "components" = .list (components.map .dict) ∧
        components.map (get · "component_type") = componentTypes.map .str := by
  obtain ⟨x, hx, haccepts, -⟩ := Loaded.exists_item "components"
    [.type [.array], .minItems 1, .items [.oneOf componentDefinitions]] h (by decide) (by simp)
  obtain ⟨items, rfl⟩ := exists_list_of_hasType (hasType_of_accepts haccepts List.mem_cons_self)
  rw [get_of_item hx]
  have hitems : ∀ item ∈ items, ∃ component, ∃ componentType : String,
      item = .dict component ∧ get component "component_type" = .str componentType :=
    fun item hitem => exists_componentType (accepts_of_mem_items haccepts (by simp) hitem)
  clear hx haccepts
  induction items with
  | nil => exact ⟨[], [], rfl, rfl⟩
  | cons item items ih =>
    obtain ⟨component, componentType, rfl, htype⟩ := hitems item List.mem_cons_self
    obtain ⟨components, componentTypes, hcomponents, htypes⟩ :=
      ih fun item hitem => hitems item (List.mem_cons_of_mem _ hitem)
    refine ⟨component :: components, componentType :: componentTypes, ?_, ?_⟩
    · rw [List.map_cons, Loaded.list.inj hcomponents]
    · rw [List.map_cons, List.map_cons, htype, htypes]

end Contract

/-! ### A response that meets the case -/

/-- The response satisfies the contract, and its tool path and the types of its components are
those that the case expects. -/
structure Meets (py : PythonText F) (case response : Fields F) : Prop where
  contract : agentResponse.accepts ((Loaded.dict response).toJson py) = true
  toolPath : ∃ audit, get response "audit" = .dict audit ∧
    get case "expected_tool_path" = get audit "tool_path"
  components : ∃ components : List (Fields F),
    get response "components" = .list (components.map .dict) ∧
      get case "expected_response_components" = .list (components.map (get · "component_type"))

theorem isSome_of_validateEvalCase (h : validateEvalCase case = .ok ())
    (hname : name ∈ evalContract.requiredCaseFields) : (case.lookup name).isSome = true := by
  simp only [validateEvalCase, bind_eq_ok] at h
  obtain ⟨_, hrequired, -⟩ := h
  rw [check_eq_ok, List.all_eq_true] at hrequired
  exact hrequired name hname

theorem getD_lookup {fields : Fields F} (h : (fields.lookup name).isSome = true) (x : Loaded F) :
    (fields.lookup name).getD x = get fields name := by
  obtain ⟨y, hy⟩ := Option.isSome_iff_exists.mp h
  rw [get, hy, Option.getD_some, Option.getD_some]

theorem lookup_of_get {fields : Fields F} {x : Loaded F} (h : get fields name = x)
    (hx : x ≠ .none) : fields.lookup name = some x := by
  rw [get] at h
  cases hlookup : fields.lookup name with
  | none =>
    rw [hlookup, Option.getD_none] at h
    exact absurd h.symm hx
  | some y => rw [← h, hlookup, Option.getD_some]

theorem eq_texts_iff {names : List String} {items : List (Loaded F)} :
    host.eq (.list (names.map .str)) (.list items) = true ↔ items = names.map .str := by
  rw [EvalHost.eq, Loaded.eq, Loaded.eqItems_map_str_iff]

theorem filterMap_dict? (components : List (Fields F)) :
    (components.map Loaded.dict).filterMap dict? = components := by
  rw [List.filterMap_map]
  exact List.filterMap_some

/-- A valid response that passes the checks against the case meets it. -/
theorem meets_of_checks (hcase : validateEvalCase case = .ok ())
    (hvalid : agentResponse.accepts ((Loaded.dict response).toJson host.toPythonText) = true)
    (hpath : expectedToolPathMatches host case response = .ok true)
    (hcomponents : expectedComponentsMatch host case response = true) :
    Meets host.toPythonText case response := by
  obtain ⟨audit, toolPath, haudit, htoolPath⟩ := exists_toolPath hvalid
  obtain ⟨components, componentTypes, hlist, htypes⟩ := exists_components hvalid
  refine ⟨hvalid, ⟨audit, haudit, ?_⟩, components, hlist, ?_⟩
  · rw [expectedToolPathMatches,
      getD_lookup (isSome_of_validateEvalCase hcase (by decide))] at hpath
    split at hpath
    · next expected hexpected =>
      rw [inPart, part, lookup_of_get haudit (by simp)] at hpath
      have heq := Except.ok.inj hpath
      rw [htoolPath] at heq
      rw [hexpected, htoolPath, eq_texts_iff.mp heq]
    · cases hpath
  · rw [expectedComponentsMatch,
      getD_lookup (isSome_of_validateEvalCase hcase (by decide)),
      lookup_of_get hlist (by simp), Option.getD_some] at hcomponents
    split at hcomponents
    · next expected components' hexpected hcomponents' =>
      obtain rfl := Loaded.list.inj hcomponents'
      rw [filterMap_dict?, htypes, eq_texts_iff] at hcomponents
      rw [hexpected, hcomponents, htypes]
    · cases hcomponents

/-! ### The score -/

theorem isText_iff {x : Loaded F} {text : String} : isText x text = true ↔ x = .str text := by
  cases x <;> simp [isText, str?]

theorem gateFromChecks_eq_pass_iff :
    gateFromChecks checks = "pass" ↔ ∀ check ∈ checks, check = true := by
  rw [gateFromChecks]
  split_ifs with h
  · exact iff_of_true rfl (List.all_eq_true.mp h)
  · exact iff_of_false (by decide) fun hall => h (List.all_eq_true.mpr hall)

/-- The evidence for a gate fails exactly if it does not let the gate pass: it is never empty. -/
theorem evidenceFails_evidenceRecord {evidence : Fields F} {expectedGate flag : String}
    {assertionsChecked passFailCriteria : List String}
    (h : get evidence name =
      evidenceRecord expectedGate assertionsChecked passFailCriteria flag) :
    evidenceFails host evidence name = !decide (flag = "pass") := by
  have htexts (items : List String) (default : String) :
      host.truthy (texts (if items.isEmpty then [default] else items)) = true := by
    cases items <;> rfl
  have hflag : isText (.str flag : Loaded F) "pass" = decide (flag = "pass") := by
    rw [Bool.eq_iff_iff, isText_iff, decide_eq_true_eq, Loaded.str.injEq]
  rw [evidenceFails, h]
  show (!isText (.str flag : Loaded F) "pass" || !host.truthy (texts _) ||
    !host.truthy (texts _)) = _
  rw [htexts, htexts, hflag, Bool.not_true, Bool.or_false, Bool.or_false]

theorem evidencePasses {evidence : Fields F} {expectedGate flag : String}
    {assertionsChecked passFailCriteria : List String}
    (h : get evidence name =
      evidenceRecord expectedGate assertionsChecked passFailCriteria flag) (hflag : flag = "pass") :
    evidenceFails host evidence name = false := by
  rw [evidenceFails_evidenceRecord h, hflag]
  rfl

/-- What a passing score asks of a result. -/
theorem overall_eq_pass_iff_of_result {result : Fields F} :
    (scoreReleaseGates host result).overall = "pass" ↔
      (∀ gate ∈ dictOrEmpty result "release_gate_results", isText gate.2 "pass" = true) ∧
        ∀ gate ∈ requiredReleaseGates,
          ((dictOrEmpty result "release_gate_results").lookup gate).isSome = true ∧
            ((dictOrEmpty result "release_gate_evidence").lookup gate).isSome = true ∧
              evidenceFails host (dictOrEmpty result "release_gate_evidence") gate = false := by
  have hdedup (names : List String) : names.dedup = [] ↔ names = [] := by
    simp only [List.eq_nil_iff_forall_not_mem, List.mem_dedup]
  simp only [scoreReleaseGates, hdedup, List.countP_eq_zero, List.filter_eq_nil_iff,
    Option.isNone_iff_eq_none, ← Option.isSome_iff_ne_none, Bool.not_eq_true', Bool.not_eq_false,
    Bool.not_eq_true, forall_and]
  split_ifs with h
  · exact iff_of_true rfl h
  · exact iff_of_false (by decide) h

/-- **The score of a case is `pass` exactly if all of its gates are.** -/
theorem overall_eq_pass_iff :
    (scoreReleaseGates host (evalResult host case gates)).overall = "pass" ↔
      ∀ gate ∈ gates.toList, gate.2 = "pass" := by
  rw [overall_eq_pass_iff_of_result]
  have hresults : dictOrEmpty (evalResult host case gates) "release_gate_results" =
      gates.toList.map fun gate => (gate.1, .str gate.2) := rfl
  have hevidence : dictOrEmpty (evalResult host case gates) "release_gate_evidence" =
      releaseGateEvidence host case gates := rfl
  rw [hresults, hevidence]
  simp only [List.forall_mem_map, isText_iff, Loaded.str.injEq, and_iff_left_iff_imp]
  intro hpass
  simp only [GateResults.toList, List.forall_mem_cons] at hpass
  obtain ⟨h₁, h₂, h₃, h₄, h₅, h₆, -⟩ := hpass
  simp only [requiredReleaseGates, List.forall_mem_cons]
  exact ⟨⟨rfl, rfl, evidencePasses rfl h₁⟩, ⟨rfl, rfl, evidencePasses rfl h₂⟩,
    ⟨rfl, rfl, evidencePasses rfl h₃⟩, ⟨rfl, rfl, evidencePasses rfl h₄⟩,
    ⟨rfl, rfl, evidencePasses rfl h₅⟩, ⟨rfl, rfl, evidencePasses rfl h₆⟩, nofun⟩

/-! ### Passing gates -/

/-- The gates of a case, from their checks. -/
theorem gateResults_eq_ok (h : gateResults host case results = .ok gates) :
    ∃ permission query structured audit,
      permissionChecks host case results = .ok permission ∧
        queryChecks host case results = .ok query ∧
        structuredChecks host case results = .ok structured ∧
        auditChecks host case results = .ok audit ∧
        gates =
          { permissionBoundary := gateFromChecks permission
            queryQuality := gateFromChecks query
            writeConfirmation := gateFromChecks (writeChecks host case results)
            structuredResponse :=
              if structured.isEmpty then (if responseIsValid host case then "pass" else "fail")
              else gateFromChecks structured
            auditability := gateFromChecks audit
            performance := gateFromChecks (performanceChecks case results) } := by
  simp only [gateResults, bind_eq_ok, pure, Except.pure, Except.ok.injEq] at h
  obtain ⟨permission, hpermission, query, hquery, structured, hstructured, audit, haudit, h⟩ := h
  exact ⟨permission, query, structured, audit, hpermission, hquery, hstructured, haudit, h.symm⟩

/-- **No assertion is outside the gates.** -/
theorem mem_gates_of_known (h : name ∈ evalContract.knownAssertions) :
    name ∈ permissionAssertions ∨ name ∈ queryAssertions ∨ name ∈ writeAssertions ∨
      name ∈ responseAssertions ∨ name ∈ auditAssertions ∨ name ∈ performanceAssertions := by
  revert name
  decide

theorem lookup_of_resultsOf {assertions : List String}
    (h : ∀ check ∈ resultsOf results (selected case assertions), check = true)
    (hname : name ∈ caseAssertions case) (hmem : name ∈ assertions) :
    results.lookup name = some true := by
  have hcheck : (results.lookup name).getD false = true :=
    h _ (List.mem_map_of_mem (List.mem_filter.mpr ⟨hname, decide_eq_true hmem⟩))
  cases hlookup : results.lookup name with
  | none => rw [hlookup] at hcheck; cases hcheck
  | some b => rw [hlookup] at hcheck; exact congrArg some hcheck

theorem permissionChecks_eq_ok (h : permissionChecks host case results = .ok checks) :
    ∃ scope, checks = scope ++ resultsOf results (selected case permissionAssertions) := by
  rw [permissionChecks] at h
  obtain ⟨scope, -, h⟩ := bind_eq_ok.mp h
  exact ⟨scope, (Except.ok.inj h).symm⟩

theorem queryChecks_eq_ok (h : queryChecks host case results = .ok checks) :
    ∃ expectations, expectationChecks host case = .ok expectations ∧
      checks = expectations ++ resultsOf results (selected case queryAssertions) := by
  rw [queryChecks] at h
  obtain ⟨expectations, hexpectations, h⟩ := bind_eq_ok.mp h
  exact ⟨expectations, hexpectations, (Except.ok.inj h).symm⟩

theorem auditChecks_eq_ok (h : auditChecks host case results = .ok checks) :
    ∃ linkage, checks = linkage ++ resultsOf results (selected case auditAssertions) := by
  rw [auditChecks] at h
  obtain ⟨linkage, -, h⟩ := bind_eq_ok.mp h
  exact ⟨linkage, (Except.ok.inj h).symm⟩

theorem structuredChecks_eq_ok (h : structuredChecks host case results = .ok checks) :
    ∃ expectations, expectationChecks host case = .ok expectations ∧
      checks = (if (capturedResponse case).isSome then [responseIsValid host case] else []) ++
        expectations ++
        (match jobResult case with
          | some result => [responseContractValid host (.dict result)]
          | none => []) ++ resultsOf results (selected case responseAssertions) := by
  rw [structuredChecks] at h
  obtain ⟨expectations, hexpectations, h⟩ := bind_eq_ok.mp h
  exact ⟨expectations, hexpectations, (Except.ok.inj h).symm⟩

/-- The structured response gate passes if its checks hold, or without checks if what has been
captured is valid. -/
theorem structuredResponse_eq_pass_iff :
    (if checks.isEmpty then (if responseIsValid host case then "pass" else "fail")
      else gateFromChecks checks) = "pass" ↔
      (∀ check ∈ checks, check = true) ∧ (checks = [] → responseIsValid host case = true) := by
  cases checks with
  | nil => cases responseIsValid host case <;> simp
  | cons check checks => simp [gateFromChecks_eq_pass_iff]

/-- What the checks of a captured response against the case are. -/
theorem expectationChecks_eq_ok (h : expectationChecks host case = .ok checks)
    (hresponse : capturedResponse case = some response) :
    ∃ b, expectedToolPathMatches host case response = .ok b ∧
      checks = [b, expectedComponentsMatch host case response] := by
  rw [expectationChecks, hresponse] at h
  obtain ⟨b, hb, h⟩ := bind_eq_ok.mp h
  exact ⟨b, hb, (Except.ok.inj h).symm⟩

theorem capturedResponse_eq_some (h : capturedResponse case = some response) :
    get case "captured_response" = .dict response := by
  rw [capturedResponse] at h
  cases hvalue : get case "captured_response" with
  | dict fields => rw [hvalue] at h; exact congrArg Loaded.dict (Option.some.inj h)
  | _ => rw [hvalue] at h; cases h

/-- What has been captured is valid only if the captured response is. -/
theorem accepts_of_responseIsValid (h : responseIsValid host case = true)
    (hresponse : capturedResponse case = some response) :
    agentResponse.accepts ((Loaded.dict response).toJson host.toPythonText) = true := by
  rw [responseIsValid, capturedResponse_eq_some hresponse] at h
  cases hjob : jobResult case with
  | none =>
    rw [hjob] at h
    exact h
  | some result =>
    rw [hjob] at h
    exact (Bool.and_eq_true_iff.mp h).1

/-! ### What a passing score says -/

/-- The assertions of the case hold, a captured response meets it, and a captured write result has
the status that the expected gate demands. -/
structure CaseHolds (host : EvalHost F) (case : Fields F) : Prop where
  assertions : ∃ names results, get case "assertions" = texts names ∧
    assertionResults host case = .ok results ∧ ∀ name ∈ names, results.lookup name = some true
  response : ∀ response ∈ capturedResponse case, Meets host.toPythonText case response
  submitted : ∀ writeResult ∈ capturedWriteResult case, get case "expected_gate" = .str "allow" →
    get writeResult "status" = .str "submitted"
  denied : ∀ writeResult ∈ capturedWriteResult case, get case "expected_gate" = .str "deny" →
    get writeResult "status" = .str "denied"

theorem status_of_matches {writeResult : Fields F} {gate status : String}
    (h : writeResultMatchesExpectedGate (expectedGate host case) (capturedWriteResult case) = true)
    (hwriteResult : capturedWriteResult case = some writeResult)
    (hgate : get case "expected_gate" = .str gate)
    (hstatus : (gate, status) ∈ [("allow", "submitted"), ("deny", "denied")]) :
    get writeResult "status" = .str status := by
  have hexpected : expectedGate host case = gate := by
    rw [expectedGate, lookup_of_get hgate (by simp)]
    rfl
  rw [hexpected, hwriteResult, writeResultMatchesExpectedGate] at h
  simp only [List.mem_cons, Prod.mk.injEq, List.not_mem_nil, or_false] at hstatus
  rcases hstatus with ⟨rfl, rfl⟩ | ⟨rfl, rfl⟩
  · exact isText_iff.mp h
  · exact isText_iff.mp h

/-- A case holds if all of its gates pass. -/
theorem caseHolds_of_gates (hcase : validateEvalCase case = .ok ())
    (hresults : assertionResults host case = .ok results)
    (hgates : gateResults host case results = .ok gates)
    (hpass : ∀ gate ∈ gates.toList, gate.2 = "pass") : CaseHolds host case := by
  obtain ⟨permission, query, structured, audit, hpermission, hquery, hstructured, haudit, rfl⟩ :=
    gateResults_eq_ok hgates
  obtain ⟨scope, rfl⟩ := permissionChecks_eq_ok hpermission
  obtain ⟨linkage, rfl⟩ := auditChecks_eq_ok haudit
  obtain ⟨expectations, hexpectations, rfl⟩ := queryChecks_eq_ok hquery
  obtain ⟨_, -, rfl⟩ := structuredChecks_eq_ok hstructured
  simp only [GateResults.toList, List.forall_mem_cons, gateFromChecks_eq_pass_iff,
    structuredResponse_eq_pass_iff, writeChecks, performanceChecks, List.forall_mem_append] at hpass
  obtain ⟨⟨-, hpermissionPass⟩, ⟨hexpectationsPass, hqueryPass⟩, ⟨hwritePass, hmatches, -⟩,
    ⟨⟨⟨⟨hvalid, -⟩, -⟩, hstructuredPass⟩, -⟩, ⟨-, hauditPass⟩, hperformancePass, -⟩ := hpass
  obtain ⟨hassertions, hknown⟩ := assertions_of_validateEvalCase hcase
  refine ⟨⟨_, results, hassertions, hresults, fun name hname => ?_⟩, fun response hresponse => ?_,
    fun writeResult hwriteResult hallow => ?_, fun writeResult hwriteResult hdeny => ?_⟩
  · rcases mem_gates_of_known (hknown name hname) with h | h | h | h | h | h
    · exact lookup_of_resultsOf hpermissionPass hname h
    · exact lookup_of_resultsOf hqueryPass hname h
    · exact lookup_of_resultsOf hwritePass hname h
    · exact lookup_of_resultsOf hstructuredPass hname h
    · exact lookup_of_resultsOf hauditPass hname h
    · exact lookup_of_resultsOf hperformancePass hname h
  · obtain ⟨b, hpath, rfl⟩ := expectationChecks_eq_ok hexpectations hresponse
    simp only [List.forall_mem_cons] at hexpectationsPass
    obtain ⟨rfl, hcomponents, -⟩ := hexpectationsPass
    have haccepts : responseIsValid host case = true := by
      rw [hresponse] at hvalid
      exact hvalid _ List.mem_cons_self
    exact meets_of_checks hcase (accepts_of_responseIsValid haccepts hresponse) hpath hcomponents
  · exact status_of_matches hmatches hwriteResult hallow (by simp)
  · exact status_of_matches hmatches hwriteResult hdeny (by simp)

theorem runEvalCase_eq_ok {result : Fields F} (h : runEvalCase host case = .ok result) :
    ∃ results gates, validateEvalCase case = .ok () ∧ assertionResults host case = .ok results ∧
      gateResults host case results = .ok gates ∧ result = evalResult host case gates := by
  simp only [runEvalCase, bind_eq_ok, pure, Except.pure, Except.ok.injEq] at h
  obtain ⟨_, hcase, results, hresults, gates, hgates, h⟩ := h
  exact ⟨results, gates, hcase, hresults, hgates, h.symm⟩

/-- The gates of a result are those that the score requires. -/
theorem forall_gates_iff : (∀ gate ∈ gates.toList, gate.2 = "pass") ↔
    ∀ gate ∈ requiredReleaseGates,
      get (dictOrEmpty (evalResult host case gates) "release_gate_results") gate =
        .str "pass" := by
  have hget : requiredReleaseGates.map
      (get (dictOrEmpty (evalResult host case gates) "release_gate_results")) =
        gates.toList.map fun gate => .str gate.2 := rfl
  rw [← List.forall_mem_map (P := (· = Loaded.str "pass")), hget, List.forall_mem_map]
  simp only [Loaded.str.injEq]

/-- **What a passing score says.** The score of a result is `pass` exactly if all six gates are, and
then the case holds. -/
theorem passing_score_sound {result : Fields F} (h : runEvalCase host case = .ok result) :
    ((scoreReleaseGates host result).overall = "pass" ↔
      ∀ gate ∈ requiredReleaseGates,
        get (dictOrEmpty result "release_gate_results") gate = .str "pass") ∧
      ((scoreReleaseGates host result).overall = "pass" → CaseHolds host case) := by
  obtain ⟨results, gates, hcase, hresults, hgates, rfl⟩ := runEvalCase_eq_ok h
  rw [overall_eq_pass_iff]
  exact ⟨forall_gates_iff, caseHolds_of_gates hcase hresults hgates⟩

/-! ### A case that passes -/

section Example

/-- Values without floats; `lower` on ASCII. -/
def plainHost : EvalHost Empty where
  value := nofun
  int := fun _ => none
  repr := fun _ => ""
  lower := String.toLower
  sameFloat := nofun
  isNegInfinity := nofun
  evalContractPath := "contracts/eval-test-schema.yaml"
  responseContractPath := "contracts/agent-response-schema.json"

/-- A response with a metric card. -/
def metricResponse : Fields Empty :=
  [("contract_version", .str "0.1.0"), ("response_id", .str "resp-001"),
   ("request_id", .str "req-001"), ("trace_id", .str "trace-001"),
   ("intent_class", .str "read_result"), ("status", .str "success"),
   ("summary", .str "Average transit time is 2 Days."),
   ("components", .list [.dict
      [("component_id", .str "metric-1"), ("component_type", .str "metric_card"),
       ("metrics", .list [.dict [("label", .str "Average transit time"), ("value", .int 2)]])]]),
   ("actions", .list []),
   ("policy", .dict
     [("permission_context_applied", .bool true), ("sensitive_fields_redacted", .bool true),
      ("write_confirmation_required", .bool false), ("denial_reason_class", .str "none")]),
   ("audit", .dict
     [("actor_role", .str "broker"), ("office_scope", .str "memphis"),
      ("tool_path", texts ["shipment_metrics_lookup"]),
      ("response_generated_at", .str "2026-03-13T12:00:00Z")])]

/-- A case with the given capture of a response and further captures. -/
def caseOf (assertions : List String) (response : Loaded Empty) (captures : Fields Empty) :
    Fields Empty :=
  [("scenario_id", .str "read_aggregation_broker"), ("intent_class", .str "read_result"),
   ("actor_role", .str "broker"), ("prompt", .str "Average transit time for LTL"),
   ("expected_gate", .str "allow"), ("expected_tool_path", texts ["shipment_metrics_lookup"]),
   ("expected_response_components", texts ["metric_card"]), ("assertions", texts assertions),
   ("captured_response", response)] ++ captures

/-- A case whose gates pass. -/
def metricCase : Fields Empty :=
  caseOf
    ["permission_context_applied", "bounded_date_range", "no_sensitive_fields",
     "latency_under_budget"]
    (.dict metricResponse)
    [("captured_latency_ms", .int 120),
     ("captured_write_result", .dict [("status", .str "submitted")])]

theorem exists_run_of_map {case : Fields Empty} {α : Type} {f : Fields Empty → α} {a : α}
    (h : (runEvalCase plainHost case).toOption.map f = some a) :
    ∃ result, runEvalCase plainHost case = .ok result ∧ f result = a := by
  cases hrun : runEvalCase plainHost case with
  | error e => rw [hrun] at h; cases h
  | ok result => rw [hrun] at h; exact ⟨result, rfl, Option.some.inj h⟩

theorem passing_score_sound_metric : ∃ result, runEvalCase plainHost metricCase = .ok result ∧
    (scoreReleaseGates plainHost result).overall = "pass" ∧ CaseHolds plainHost metricCase := by
  have hscore : (runEvalCase plainHost metricCase).toOption.map
      (fun result => (scoreReleaseGates plainHost result).overall) = some "pass" := by
    decide +kernel
  obtain ⟨result, hrun, hpass⟩ := exists_run_of_map hscore
  exact ⟨result, hrun, hpass, (passing_score_sound hrun).2 hpass⟩

end Example

end Meridian.Evals
