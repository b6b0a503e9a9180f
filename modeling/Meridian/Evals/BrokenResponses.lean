import Meridian.Evals.Gates

/-!
# Broken responses

A captured response that does not satisfy the response contract. The gate catches it exactly if the
parts of the response that the runner dereferences before and besides the contract can be
dereferenced, and if a valid result of a captured job does not stand in for a response that is no
object.

## Main definitions

* `Meridian.Evals.CatchesBroken`: the gate catches the response.
* `Meridian.Evals.Masked`: the checks of the structured response gate do not see the response.

## Main results

* `Meridian.Evals.returns_runEvalCase_iff`: when the runner returns on a valid case.
* `Meridian.Evals.catches_broken_iff`: when it catches a broken response.
-/

namespace Meridian.Evals

open Foundations Responses

variable {F : Type} {host : EvalHost F} {case response : Fields F} {results : List (String × Bool)}
  {gates : GateResults} {name : String}

/-! ### When the runner returns -/

theorem partsReadable_of_none (h : capturedResponse case = none) :
    PartsReadable (captures case) :=
  ⟨fun response hresponse => (by rw [captures, h] at hresponse; cases hresponse),
    fun response hresponse => (by rw [captures, h] at hresponse; cases hresponse)⟩

theorem partsReadable_iff_of_some (h : capturedResponse case = some response) :
    PartsReadable (captures case) ↔ IsPart response "policy" ∧ IsPart response "audit" := by
  constructor
  · intro hparts
    exact ⟨hparts.policy response h, hparts.audit response h⟩
  · rintro ⟨hpolicy, haudit⟩
    refine ⟨fun response' h' => ?_, fun response' h' => ?_⟩
    · obtain rfl := Option.some.inj (h.symm.trans h')
      exact hpolicy
    · obtain rfl := Option.some.inj (h.symm.trans h')
      exact haudit

/-- The scope of a response is checked exactly if its parts can be read. -/
theorem returns_scopeChecks_iff :
    Returns (scopeChecks host case) ↔ PartsReadable (captures case) := by
  cases hresponse : capturedResponse case with
  | none =>
    refine iff_of_true ?_ (partsReadable_of_none hresponse)
    rw [scopeChecks, hresponse]
    cases capturedWriteResult case <;> exact returns_ok _
  | some response =>
    rw [scopeChecks, hresponse, partsReadable_iff_of_some hresponse]
    simp only [returns_bind, returns_pure, and_true, exists_and_right]
    exact and_congr returns_inPart returns_inPart

theorem returns_expectationChecks (h : PartsReadable (captures case)) :
    Returns (expectationChecks host case) := by
  cases hresponse : capturedResponse case with
  | none =>
    rw [expectationChecks, hresponse]
    exact returns_ok _
  | some response =>
    rw [expectationChecks, hresponse, returns_bind_of_forall fun _ => returns_pure _,
      expectedToolPathMatches]
    split
    · exact returns_inPart.mpr (h.audit response hresponse)
    · exact returns_ok false

theorem returns_linkageChecks (h : PartsReadable (captures case)) :
    Returns (linkageChecks host case) := by
  cases hresponse : capturedResponse case with
  | none =>
    rw [linkageChecks, hresponse]
    exact returns_ok _
  | some response =>
    have haudit (p : Fields F → Bool) : Returns (inPart response "audit" p) :=
      returns_inPart.mpr (h.audit response hresponse)
    rw [linkageChecks, hresponse, returns_bind_of_forall fun _ =>
      (returns_bind_of_forall fun _ => returns_pure _).mpr (haudit _)]
    exact haudit _

/-- The gates are made exactly if the parts of the response can be read. -/
theorem returns_gateResults_iff :
    Returns (gateResults host case results) ↔ PartsReadable (captures case) := by
  constructor
  · rintro ⟨gates, h⟩
    obtain ⟨_, _, _, _, hpermission, -⟩ := gateResults_eq_ok h
    rw [permissionChecks] at hpermission
    obtain ⟨scope, hscope, -⟩ := bind_eq_ok.mp hpermission
    exact returns_scopeChecks_iff.mp ⟨scope, hscope⟩
  · intro h
    obtain ⟨scope, hscope⟩ : Returns (scopeChecks host case) := returns_scopeChecks_iff.mpr h
    obtain ⟨expectations, hexpectations⟩ : Returns (expectationChecks host case) :=
      returns_expectationChecks h
    obtain ⟨linkage, hlinkage⟩ : Returns (linkageChecks host case) := returns_linkageChecks h
    simp only [gateResults, permissionChecks, hscope, queryChecks, hexpectations, structuredChecks,
      auditChecks, hlinkage, ok_bind, pure_bind, returns_pure]

/-- **When the runner returns.** On a valid case exactly if the parts of the response can be read,
and each assertion finds what it needs. -/
theorem returns_runEvalCase_iff (hcase : validateEvalCase case = .ok ()) :
    Returns (runEvalCase host case) ↔ PartsReadable (captures case) ∧
      ∀ assertion ∈ caseAssertions case, AssertionReadable host (captures case) assertion := by
  constructor
  · rintro ⟨result, h⟩
    obtain ⟨results, gates, -, hresults, hgates, -⟩ := runEvalCase_eq_ok h
    have hparts := returns_gateResults_iff.mp ⟨gates, hgates⟩
    exact ⟨hparts, (returns_assertionResults_iff hparts).mp ⟨results, hresults⟩⟩
  · rintro ⟨hparts, hassertions⟩
    obtain ⟨results, hresults⟩ := (returns_assertionResults_iff hparts).mpr hassertions
    obtain ⟨gates, hgates⟩ : Returns (gateResults host case results) :=
      returns_gateResults_iff.mpr hparts
    rw [runEvalCase, hcase, ok_bind, hresults, ok_bind, hgates, ok_bind]
    exact returns_pure _

/-! ### Broken responses -/

/-- A response has been captured, and it does not satisfy the contract. -/
structure Broken (host : EvalHost F) (case : Fields F) : Prop where
  captured : get case "captured_response" ≠ .none
  rejected : agentResponse.accepts ((get case "captured_response").toJson host.toPythonText) = false

/-- The structured response gate does not see the response: it is no object, the captured job has a
valid result, and no assertion of the case is about responses. -/
structure Masked (host : EvalHost F) (case : Fields F) : Prop where
  noObject : capturedResponse case = none
  job : ∃ result, jobResult case = some result ∧
    agentResponse.accepts ((Loaded.dict result).toJson host.toPythonText) = true
  assertions : ∀ assertion ∈ caseAssertions case, assertion ∉ responseAssertions

/-- The runner returns and reports the response, and the score fails. -/
def CatchesBroken (host : EvalHost F) (case : Fields F) : Prop :=
  ∃ result, runEvalCase host case = .ok result ∧
    get (dictOrEmpty result "contract_validation") "status" = .str "failed" ∧
    get (dictOrEmpty result "release_gate_results") "structured_response" = .str "fail" ∧
    (scoreReleaseGates host result).overall = "fail"

theorem responseContractValid_eq_false {x : Loaded F}
    (h : agentResponse.accepts (x.toJson host.toPythonText) = false) :
    responseContractValid host x = false := by
  cases x with
  | dict fields => exact h
  | _ => rfl

theorem responseIsValid_of_broken (h : Broken host case) : responseIsValid host case = false := by
  have hvalid := responseContractValid_eq_false h.rejected
  rw [responseIsValid]
  cases hcaptured : get case "captured_response" with
  | none => exact absurd hcaptured h.captured
  | _ =>
    rw [hcaptured] at hvalid
    simp only [hvalid, Bool.false_and]
    cases jobResult case <;> rfl

/-- Without a response, the assertions about responses do not hold. -/
theorem lookup_of_responseAssertions (hresponse : capturedResponse case = none)
    (hresults : assertionResults host case = .ok results) (hname : name ∈ caseAssertions case)
    (hmem : name ∈ responseAssertions) : results.lookup name = some false := by
  obtain ⟨b, hb, hlookup⟩ := lookup_assertionResults hresults hname
  have hfalse (test : Fields F → Except EvalError Bool) :
      (captures case).ifResponse test = .ok false := by
    rw [Captures.ifResponse, captures, hresponse]
  simp only [responseAssertions, List.mem_cons, List.not_mem_nil, or_false] at hmem
  have hresult : assertionResult host (captures case) name = .ok false := by
    rcases hmem with rfl | rfl | rfl | rfl
    · exact hfalse _
    · exact hfalse _
    · exact hfalse _
    · exact hfalse _
  rw [hlookup, ← Except.ok.inj (hb.symm.trans hresult)]

theorem selected_eq_nil_iff {assertions : List String} :
    selected case assertions = [] ↔ ∀ name ∈ caseAssertions case, name ∉ assertions := by
  simp only [selected, List.filter_eq_nil_iff, decide_eq_true_eq]

/-- The structured response gate lets a broken response pass exactly if it does not see it. -/
theorem structuredChecks_pass_iff {checks : List Bool} (hbroken : Broken host case)
    (hresults : assertionResults host case = .ok results)
    (hchecks : structuredChecks host case results = .ok checks) :
    ((∀ check ∈ checks, check = true) ∧ (checks = [] → responseIsValid host case = true)) ↔
      Masked host case := by
  obtain ⟨expectations, hexpectations, rfl⟩ := structuredChecks_eq_ok hchecks
  rw [responseIsValid_of_broken hbroken]
  cases hresponse : capturedResponse case with
  | some response =>
    refine iff_of_false (fun h => ?_) fun h => ?_
    · exact absurd (h.1 false (by simp)) nofun
    · rw [h.noObject] at hresponse
      cases hresponse
  | none =>
    obtain rfl : expectations = [] := by
      rw [expectationChecks, hresponse] at hexpectations
      exact (Except.ok.inj hexpectations).symm
    constructor
    · rintro ⟨hall, hempty⟩
      simp only [List.forall_mem_append] at hall
      have hnone : selected case responseAssertions = [] := by
        rw [selected_eq_nil_iff]
        intro name hname hmem
        have htrue := lookup_of_resultsOf hall.2 hname hmem
        rw [lookup_of_responseAssertions hresponse hresults hname hmem] at htrue
        cases htrue
      rw [hnone] at hempty
      cases hjob : jobResult case with
      | none =>
        rw [hjob] at hempty
        exact absurd (hempty rfl) nofun
      | some result =>
        rw [hjob] at hall
        exact ⟨hresponse, ⟨result, hjob, hall.1.2 _ List.mem_cons_self⟩,
          selected_eq_nil_iff.mp hnone⟩
    · rintro ⟨-, ⟨result, hjob, hvalid⟩, hassertions⟩
      rw [hjob, selected_eq_nil_iff.mpr hassertions]
      refine ⟨fun check hcheck => ?_, fun h => ?_⟩
      · rw [List.mem_singleton.mp hcheck]
        exact hvalid
      · cases h

theorem structuredResponse_eq_fail_iff (hbroken : Broken host case)
    (hresults : assertionResults host case = .ok results)
    (hgates : gateResults host case results = .ok gates) :
    gates.structuredResponse = "fail" ↔ ¬ Masked host case := by
  obtain ⟨_, _, structured, _, -, -, hstructured, -, rfl⟩ := gateResults_eq_ok hgates
  rw [← structuredChecks_pass_iff hbroken hresults hstructured, ← structuredResponse_eq_pass_iff]
  simp only [gateFromChecks]
  split_ifs <;> decide

theorem overall_eq_fail_iff {result : Fields F} :
    (scoreReleaseGates host result).overall = "fail" ↔
      (scoreReleaseGates host result).overall ≠ "pass" := by
  simp only [scoreReleaseGates]
  split_ifs <;> decide

/-- **When the gate catches a broken response.** Exactly if what the runner reads of the captures
can be read, and the structured response gate sees the response. -/
theorem catches_broken_iff (hcase : validateEvalCase case = .ok ()) (hbroken : Broken host case) :
    CatchesBroken host case ↔ PartsReadable (captures case) ∧
      (∀ assertion ∈ caseAssertions case, AssertionReadable host (captures case) assertion) ∧
      ¬ Masked host case := by
  rw [← and_assoc, ← returns_runEvalCase_iff hcase]
  have hgate (gates : GateResults) :
      get (dictOrEmpty (evalResult host case gates) "release_gate_results")
        "structured_response" = .str gates.structuredResponse := rfl
  constructor
  · rintro ⟨result, hrun, -, hfail, -⟩
    obtain ⟨results, gates, -, hresults, hgates, rfl⟩ := runEvalCase_eq_ok hrun
    rw [hgate, Loaded.str.injEq] at hfail
    exact ⟨⟨_, hrun⟩, (structuredResponse_eq_fail_iff hbroken hresults hgates).mp hfail⟩
  · rintro ⟨⟨result, hrun⟩, hmasked⟩
    obtain ⟨results, gates, -, hresults, hgates, rfl⟩ := runEvalCase_eq_ok hrun
    have hfail := (structuredResponse_eq_fail_iff hbroken hresults hgates).mpr hmasked
    refine ⟨_, hrun, ?_, ?_, ?_⟩
    · show Loaded.str (if responseIsValid host case then "passed" else "failed") = _
      rw [responseIsValid_of_broken hbroken]
      rfl
    · rw [hgate, hfail]
    · rw [overall_eq_fail_iff, Ne, overall_eq_pass_iff]
      intro hpass
      have hpass : gates.structuredResponse = "pass" := hpass ("structured_response", _) (by
        simp [GateResults.toList])
      rw [hfail] at hpass
      exact absurd hpass (by decide)

/-! ### Responses that are caught and responses that are not -/

section Examples

/-- A case with a response without a policy. -/
def withoutPolicy : Fields Empty :=
  caseOf ["permission_context_applied", "bounded_date_range", "no_sensitive_fields"]
    (.dict (metricResponse.filter (·.1 ≠ "policy"))) []

theorem catches_broken_without_policy : CatchesBroken plainHost withoutPolicy := by
  have hbroken : Broken plainHost withoutPolicy := by
    refine ⟨fun h => ?_, by decide +kernel⟩
    cases h
  refine (catches_broken_iff (by decide +kernel) hbroken).mpr ⟨?_, ?_, ?_⟩
  · refine (partsReadable_iff_of_some rfl).mpr ⟨fun x hx => ?_, fun x hx => ?_⟩
    · cases hx
    · cases hx
      exact ⟨_, rfl⟩
  · intro assertion hassertion
    have hmem : assertion ∈
        ["permission_context_applied", "bounded_date_range", "no_sensitive_fields"] := hassertion
    simp only [List.mem_cons, List.not_mem_nil, or_false] at hmem
    rcases hmem with rfl | rfl | rfl
    · trivial
    · rintro response ⟨⟩ hdays
      exact absurd hdays (by decide +kernel)
    · trivial
  · intro hmasked
    cases hmasked.noObject

/-- A case with a response whose policy is a text. -/
def textPolicy : Fields Empty :=
  caseOf ["permission_context_applied"] (.dict [("policy", .str "none")]) []

/-- A case with a text for a response and a valid result of a job. -/
def textResponse : Fields Empty :=
  caseOf ["latency_under_budget"] (.str "no response")
    [("captured_job", .dict [("result", .dict metricResponse)]), ("captured_latency_ms", .int 120)]

/-- **Not every broken response is caught.** The runner raises on a policy that is no object, and a
text for a response passes beside a valid result of a job. -/
theorem not_catches_broken :
    (validateEvalCase textPolicy = .ok () ∧ Broken plainHost textPolicy ∧
      runEvalCase plainHost textPolicy = .error .attributeError ∧
      ¬ CatchesBroken plainHost textPolicy) ∧
    validateEvalCase textResponse = .ok () ∧ Broken plainHost textResponse ∧
      (∃ result, runEvalCase plainHost textResponse = .ok result ∧
        (scoreReleaseGates plainHost result).overall = "pass") ∧
      ¬ CatchesBroken plainHost textResponse := by
  have hraises : runEvalCase plainHost textPolicy = .error .attributeError := by rfl
  have hscore : (runEvalCase plainHost textResponse).toOption.map
      (fun result => (scoreReleaseGates plainHost result).overall) = some "pass" := by
    decide +kernel
  obtain ⟨result, hrun, hpass⟩ := exists_run_of_map hscore
  refine ⟨⟨by decide +kernel, ⟨nofun, by decide +kernel⟩, hraises, ?_⟩,
    by decide +kernel, ⟨nofun, by decide +kernel⟩, ⟨result, hrun, hpass⟩, ?_⟩
  · rintro ⟨result', h, -⟩
    rw [hraises] at h
    cases h
  · rintro ⟨result', h, -, -, hfail⟩
    obtain rfl := Except.ok.inj (hrun.symm.trans h)
    rw [hpass] at hfail
    exact absurd hfail (by decide)

end Examples

end Meridian.Evals
