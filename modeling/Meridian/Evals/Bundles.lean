import Meridian.Evals.BrokenResponses

/-!
# Replay bundles

`_validate_eval_bundle` and `run_eval_bundle` of `evals/runner.py`: a bundle of cases is checked
against the scenarios and the coverage slices of the contract, each of its cases is run and scored,
and the scores are counted.

## Main definitions

* `Meridian.Evals.validateEvalBundle`: the validation of a bundle.
* `Meridian.Evals.runEvalBundle`: the run of a bundle.
* `Meridian.Evals.ValidCases`: what the validation asks of the cases.
* `Meridian.Evals.BundleReport.Exact`: what a report says about the cases of a bundle.
* `Meridian.Evals.GatesPass`: a case has passed its six gates.

## Main results

* `Meridian.Evals.bundle_admitted_iff`: when the validation of a bundle passes.
* `Meridian.Evals.bundle_score_exact`: the score of a bundle names exactly the scenarios that fail.
* `Meridian.Evals.bundle_score_perm`: it does not depend on the order of the cases.
* `Meridian.Evals.passing_bundle_sound`: what a bundle that passes says.
-/

namespace Meridian.Evals

open Foundations Responses

variable {F : Type}

/-! ### The contract -/

/-- A slice that the cases of a bundle must cover. -/
structure CoverageSlice where
  coverageId : String
  scenarioIds : List String
  requiredAssertions : List String
  requiredCaptureFields : List String
  deriving DecidableEq

/-- What the contract says about a bundle. -/
structure BundleContract where
  version : String
  requiredTopLevelFields : List String
  defaultFixtureArtifact : String
  requiredScenarioIds : List String
  requiredCoverageSlices : List CoverageSlice

/-- `bundle_schema` and `replay_bundle` of `contracts/eval-test-schema.yaml`. -/
def bundleContract : BundleContract where
  version := "0.1.0"
  requiredTopLevelFields := ["bundle_id", "contract_version", "generated_at", "cases"]
  defaultFixtureArtifact := "db/seeds/replay_bundle.json"
  requiredScenarioIds :=
    ["read_aggregation_broker", "read_async_refresh_pending", "read_stale_binding_broker",
     "read_ranking_broker", "read_multi_table_broker", "booking_submit_after_confirmation",
     "booking_submit_idempotent_replay"]
  requiredCoverageSlices :=
    [⟨"read_end_to_end",
      ["read_aggregation_broker", "read_ranking_broker", "read_multi_table_broker"],
      ["permission_context_applied"], ["captured_response"]⟩,
     ⟨"async_trace_end_to_end", ["read_async_refresh_pending"],
      ["session_metadata_present", "async_job_id_present", "trace_linked_async_completion"],
      ["captured_response", "captured_job"]⟩,
     ⟨"stale_state_end_to_end", ["read_stale_binding_broker"],
      ["stale_binding_emitted", "session_metadata_present"], ["captured_response"]⟩,
     ⟨"write_replay_end_to_end",
      ["booking_submit_after_confirmation", "booking_submit_idempotent_replay"],
      ["confirmation_token_validated", "resource_state_revalidated", "audit_record_present",
       "idempotent_replay_linked", "action_outcome_timestamp_present"],
      ["captured_write_result", "captured_write_replay"]⟩]

/-- The assertions of the catalog by the scenario. -/
def catalog : List (String × List String) :=
  evalContract.scenarioCatalog.map fun scenario => (scenario.scenarioId, scenario.assertions)

/-! ### The validation -/

/-- The error of a bundle that is not valid. -/
def invalidBundle : EvalError := .valueError "replay bundle validation failed"

/-- The condition, or the error of a bundle that is not valid. -/
def checkBundle (condition : Bool) : Except EvalError Unit :=
  if condition then .ok () else .error invalidBundle

/-- Whether the value is `None`. -/
def isNone : Loaded F → Bool
  | .none => true
  | _ => false

/-- `_bundle_cases`. -/
def bundleCases (bundle : Fields F) : Except EvalError (List (Fields F)) :=
  match get bundle "cases" with
  | .list cases =>
    let typedCases := cases.filterMap dict?
    if typedCases.length ≠ cases.length ∨ typedCases = [] then .error invalidBundle
    else .ok typedCases
  | _ => .error invalidBundle

section Validation

variable (host : EvalHost F)

/-- `str(case.get("scenario_id", default))`. -/
def scenarioId (default : String) (case : Fields F) : String :=
  host.text ((case.lookup "scenario_id").getD (.str default))

/-- The loop over the cases; the scenarios that it has seen come first. -/
def checkScenarios (seenScenarios : List String) :
    List (Fields F) → Except EvalError (List String)
  | [] => .ok seenScenarios
  | case :: cases => do
    validateEvalCase case
    checkBundle (scenarioId host "" case ∉ seenScenarios)
    checkBundle (catalog.lookup (scenarioId host "" case) = some (caseAssertions case))
    checkScenarios (scenarioId host "" case :: seenScenarios) cases

/-- Whether a slice is one of `coverage_errors`. -/
def lacksCoverage (cases : List (Fields F)) (slice : CoverageSlice) : Bool :=
  let matchingCases := cases.filter fun case => scenarioId host "" case ∈ slice.scenarioIds
  matchingCases.isEmpty ||
    !matchingCases.any fun case =>
      slice.requiredAssertions.all (· ∈ caseAssertions case) &&
        slice.requiredCaptureFields.all fun field => !isNone (get case field)

/-- What `_validate_eval_bundle` returns. -/
structure Validation where
  contractVersion : String
  caseCount : ℕ
  coverageIds : List String
  fixtureArtifact : String

/-- `_validate_eval_bundle`. -/
def validateEvalBundle (bundle : Fields F) : Except EvalError Validation := do
  checkBundle (bundleContract.requiredTopLevelFields.all fun name => (bundle.lookup name).isSome)
  checkBundle (host.eq (get bundle "contract_version") (.str bundleContract.version))
  let cases ← bundleCases bundle
  let seenScenarios ← checkScenarios host [] cases
  checkBundle (bundleContract.requiredScenarioIds.all (· ∈ seenScenarios))
  let coverageErrors := bundleContract.requiredCoverageSlices.filter (lacksCoverage host cases)
  checkBundle (coverageErrors.map CoverageSlice.coverageId).isEmpty
  return {
    contractVersion := bundleContract.version
    caseCount := cases.length
    coverageIds := bundleContract.requiredCoverageSlices.map CoverageSlice.coverageId
    fixtureArtifact := bundleContract.defaultFixtureArtifact }

/-! ### The run -/

/-- A case of the report. -/
structure CaseReport (F : Type) where
  scenarioId : String
  result : Fields F
  score : Score

/-- The counters of the loop over the cases. -/
structure Tally (F : Type) where
  caseResults : List (CaseReport F)
  passCount : ℕ
  failedScenarios : List String

/-- The counters before the first case. -/
def Tally.empty : Tally F := ⟨[], 0, []⟩

/-- One round of the loop. -/
def runCase (tally : Tally F) (case : Fields F) : Except EvalError (Tally F) := do
  let result ← runEvalCase host case
  let score := scoreReleaseGates host result
  let caseResults := tally.caseResults ++ [⟨scenarioId host "unknown" case, result, score⟩]
  if score.overall = "pass" then
    return ⟨caseResults, tally.passCount + 1, tally.failedScenarios⟩
  else
    return ⟨caseResults, tally.passCount,
      tally.failedScenarios ++ [scenarioId host "unknown" case]⟩

/-- What `run_eval_bundle` returns; the two validations have passed. -/
structure BundleReport (F : Type) where
  bundleId : String
  validation : Validation
  cases : List (CaseReport F)
  overall : String
  pass : ℕ
  fail : ℕ
  total : ℕ
  failedScenarios : List String

/-- `run_eval_bundle`. -/
def runEvalBundle (bundle : Fields F) : Except EvalError (BundleReport F) := do
  let validation ← validateEvalBundle host bundle
  let cases ← bundleCases bundle
  let tally ← cases.foldlM (runCase host) Tally.empty
  return {
    bundleId := host.text ((bundle.lookup "bundle_id").getD (.str "unknown"))
    validation := validation
    cases := tally.caseResults
    overall := if tally.failedScenarios.isEmpty then "pass" else "fail"
    pass := tally.passCount
    fail := tally.failedScenarios.length
    total := cases.length
    failedScenarios := tally.failedScenarios }

end Validation

variable {host : EvalHost F} {bundle case : Fields F} {cases : List (Fields F)}
  {name : String}

/-! ### Valid bundles -/

/-- The scenarios of a slice whose assertions in the catalog are those that the slice asks for. -/
def CoverageSlice.bearers (slice : CoverageSlice) : List String :=
  slice.scenarioIds.filter fun id =>
    slice.requiredAssertions.all (· ∈ (catalog.lookup id).getD [])

/-- The required members are there, and the version is that of the contract. -/
structure ValidHeader (bundle : Fields F) : Prop where
  fields : ∀ name ∈ bundleContract.requiredTopLevelFields, (bundle.lookup name).isSome = true
  version : get bundle "contract_version" = .str bundleContract.version

/-- The cases are valid, each is of a scenario of its own with the assertions of the catalog, the
required scenarios are there, and those that bear a slice have its captures. -/
structure ValidCases (host : EvalHost F) (cases : List (Fields F)) : Prop where
  valid : ∀ case ∈ cases, validateEvalCase case = .ok ()
  known : ∀ case ∈ cases, catalog.lookup (scenarioId host "" case) = some (caseAssertions case)
  distinct : (cases.map (scenarioId host "")).Nodup
  required : ∀ id ∈ bundleContract.requiredScenarioIds, id ∈ cases.map (scenarioId host "")
  captured : ∀ slice ∈ bundleContract.requiredCoverageSlices, ∀ case ∈ cases,
    scenarioId host "" case ∈ slice.bearers →
      ∀ field ∈ slice.requiredCaptureFields, get case field ≠ .none

theorem checkBundle_eq_ok {condition : Bool} {u : Unit} :
    checkBundle condition = .ok u ↔ condition = true := by
  rw [checkBundle]
  split_ifs with h
  · exact iff_of_true rfl h
  · exact iff_of_false nofun h

theorem isNone_eq_false_iff {x : Loaded F} : isNone x = false ↔ x ≠ .none := by
  cases x <;> simp [isNone]

theorem EvalHost.eq_str_iff {x : Loaded F} {text : String} :
    host.eq x (.str text) = true ↔ x = .str text := by
  cases x <;> simp [EvalHost.eq, Loaded.eq, Loaded.exactValue]

/-- **One scenario bears each slice**, and it is one of those that are required. -/
theorem exists_bearer : ∀ slice ∈ bundleContract.requiredCoverageSlices,
    ∃ id ∈ bundleContract.requiredScenarioIds, slice.bearers = [id] := by
  decide

/-- A list that loses nothing without what is not a `dict` has nothing else. -/
theorem eq_map_dict {items : List (Loaded F)} (h : (items.filterMap dict?).length = items.length) :
    items = (items.filterMap dict?).map .dict := by
  induction items with
  | nil => rfl
  | cons item items ih =>
    have hle := List.length_filterMap_le dict? items
    cases item with
    | dict fields => exact congrArg (Loaded.dict fields :: ·) (ih (Nat.succ.inj h))
    | _ =>
      rw [List.filterMap_cons_none rfl, List.length_cons] at h
      omega

theorem bundleCases_eq_ok_iff :
    bundleCases bundle = .ok cases ↔ get bundle "cases" = .list (cases.map .dict) ∧ cases ≠ [] := by
  rw [bundleCases]
  split
  · next items hitems =>
    rw [hitems, Loaded.list.injEq]
    by_cases h : (items.filterMap dict?).length ≠ items.length ∨ items.filterMap dict? = []
    · rw [if_pos h]
      refine iff_of_false nofun ?_
      rintro ⟨rfl, hne⟩
      rw [filterMap_dict?, List.length_map] at h
      exact h.elim (fun h => h rfl) hne
    · rw [if_neg h, Except.ok.injEq]
      obtain ⟨hlength, hne⟩ := not_or.mp h
      constructor
      · rintro rfl
        exact ⟨eq_map_dict (not_not.mp hlength), hne⟩
      · rintro ⟨rfl, -⟩
        exact filterMap_dict? cases
  · next hne => exact iff_of_false nofun fun h => hne _ h.1

/-- The loop over the cases, from what it has seen. -/
theorem checkScenarios_eq_ok_iff {seen seen' : List String} :
    checkScenarios host seen cases = .ok seen' ↔
      seen' = (cases.map (scenarioId host "")).reverse ++ seen ∧
        (∀ case ∈ cases, validateEvalCase case = .ok ()) ∧
        (∀ case ∈ cases,
          catalog.lookup (scenarioId host "" case) = some (caseAssertions case)) ∧
        (cases.map (scenarioId host "")).Nodup ∧
        ∀ case ∈ cases, scenarioId host "" case ∉ seen := by
  induction cases generalizing seen with
  | nil => simp [checkScenarios, eq_comm]
  | cons case cases ih =>
    simp only [checkScenarios, bind_eq_ok, checkBundle_eq_ok, decide_eq_true_eq, exists_const, ih,
      List.map_cons, List.reverse_cons, List.append_assoc, List.singleton_append,
      List.nodup_cons, List.mem_cons, forall_eq_or_imp, not_or, List.mem_map, not_exists, not_and]
    constructor
    · rintro ⟨⟨⟩, hvalid, hseen, hknown, rfl, hvalids, hknowns, hnodup, hnew⟩
      exact ⟨rfl, ⟨hvalid, hvalids⟩, ⟨hknown, hknowns⟩,
        ⟨fun c hc => (hnew c hc).1, hnodup⟩, hseen, fun c hc => (hnew c hc).2⟩
    · rintro ⟨rfl, ⟨hvalid, hvalids⟩, ⟨hknown, hknowns⟩, ⟨hfresh, hnodup⟩, hseen, hnew⟩
      exact ⟨(), hvalid, hseen, hknown, rfl, hvalids, hknowns, hnodup,
        fun c hc => ⟨hfresh c hc, hnew c hc⟩⟩

theorem lacksCoverage_eq_false_iff {slice : CoverageSlice} :
    lacksCoverage host cases slice = false ↔
      ∃ case ∈ cases, scenarioId host "" case ∈ slice.scenarioIds ∧
        (∀ name ∈ slice.requiredAssertions, name ∈ caseAssertions case) ∧
        ∀ field ∈ slice.requiredCaptureFields, get case field ≠ .none := by
  have hempty (matching : List (Fields F)) (p : Fields F → Bool) :
      (matching.isEmpty || !matching.any p) = !matching.any p := by
    cases matching <;> rfl
  simp only [lacksCoverage, hempty, Bool.not_eq_false', List.any_eq_true, List.mem_filter,
    decide_eq_true_eq, Bool.and_eq_true, List.all_eq_true, Bool.not_eq_true',
    isNone_eq_false_iff, and_assoc]

/-- Of the cases of the catalog, those that the assertions of a slice admit are of the scenario that
bears it. -/
theorem mem_bearers_iff {slice : CoverageSlice}
    (hknown : catalog.lookup (scenarioId host "" case) = some (caseAssertions case)) :
    scenarioId host "" case ∈ slice.bearers ↔ scenarioId host "" case ∈ slice.scenarioIds ∧
      ∀ name ∈ slice.requiredAssertions, name ∈ caseAssertions case := by
  simp only [CoverageSlice.bearers, List.mem_filter, hknown, Option.getD_some, List.all_eq_true,
    decide_eq_true_eq]

/-- Two cases of one scenario are the same case. -/
theorem eq_of_scenarioId (hdistinct : (cases.map (scenarioId host "")).Nodup) {case' : Fields F}
    (hcase : case ∈ cases) (hcase' : case' ∈ cases)
    (h : scenarioId host "" case = scenarioId host "" case') : case = case' :=
  List.inj_on_of_nodup_map hdistinct hcase hcase' h

/-- The slices are covered exactly if the scenarios that bear them have their captures. -/
theorem covered_iff (hknown : ∀ case ∈ cases,
      catalog.lookup (scenarioId host "" case) = some (caseAssertions case))
    (hdistinct : (cases.map (scenarioId host "")).Nodup)
    (hrequired : ∀ id ∈ bundleContract.requiredScenarioIds, id ∈ cases.map (scenarioId host ""))
    {slice : CoverageSlice} (hslice : slice ∈ bundleContract.requiredCoverageSlices) :
    lacksCoverage host cases slice = false ↔
      ∀ case ∈ cases, scenarioId host "" case ∈ slice.bearers →
        ∀ field ∈ slice.requiredCaptureFields, get case field ≠ .none := by
  obtain ⟨id, hid, hbearers⟩ := exists_bearer slice hslice
  rw [lacksCoverage_eq_false_iff]
  constructor
  · rintro ⟨case, hcase, hmem, hassertions, hcaptured⟩ case' hcase' hmem'
    have hbears := (mem_bearers_iff (hknown case hcase)).mpr ⟨hmem, hassertions⟩
    rw [hbearers, List.mem_singleton] at hbears hmem'
    rw [eq_of_scenarioId hdistinct hcase' hcase (hmem'.trans hbears.symm)]
    exact hcaptured
  · intro hcaptured
    obtain ⟨case, hcase, rfl⟩ := List.mem_map.mp (hrequired id hid)
    have hbears : scenarioId host "" case ∈ slice.bearers := by
      rw [hbearers]
      exact List.mem_singleton_self _
    obtain ⟨hmem, hassertions⟩ := (mem_bearers_iff (hknown case hcase)).mp hbears
    exact ⟨case, hcase, hmem, hassertions, hcaptured case hcase hbears⟩

theorem ne_nil_of_required (hrequired : ∀ id ∈ bundleContract.requiredScenarioIds,
    id ∈ cases.map (scenarioId host "")) : cases ≠ [] := by
  rintro rfl
  exact List.not_mem_nil (hrequired "read_aggregation_broker" (by decide))

/-- What the validation returns for a number of cases. -/
def validationOf (caseCount : ℕ) : Validation where
  contractVersion := bundleContract.version
  caseCount := caseCount
  coverageIds := bundleContract.requiredCoverageSlices.map CoverageSlice.coverageId
  fixtureArtifact := bundleContract.defaultFixtureArtifact

/-- **When a bundle is valid.** Exactly if its header is, and its cases are. The coverage slices ask
for the captures of four scenarios and for nothing else. -/
theorem validateEvalBundle_eq_ok_iff {validation : Validation} :
    validateEvalBundle host bundle = .ok validation ↔
      ValidHeader bundle ∧ ∃ cases, get bundle "cases" = .list (cases.map .dict) ∧
        ValidCases host cases ∧ validation = validationOf cases.length := by
  have hempty (slices : List CoverageSlice) :
      (slices.map CoverageSlice.coverageId).isEmpty = true ↔ slices = [] := by
    rw [List.isEmpty_iff, List.map_eq_nil_iff]
  simp only [validateEvalBundle, bind_eq_ok, checkBundle_eq_ok, exists_const, List.all_eq_true,
    EvalHost.eq_str_iff, bundleCases_eq_ok_iff, checkScenarios_eq_ok_iff, hempty, pure, Except.pure,
    Except.ok.injEq, List.filter_eq_nil_iff, decide_eq_true_eq, List.append_nil, Bool.not_eq_true]
  constructor
  · rintro ⟨hfields, hversion, cases, ⟨hcases, -⟩, _, ⟨rfl, hvalid, hknown, hdistinct, -⟩,
      hrequired, hcovered, rfl⟩
    simp only [List.mem_reverse] at hrequired
    refine ⟨⟨hfields, hversion⟩, cases, hcases, ⟨hvalid, hknown, hdistinct, hrequired, ?_⟩, rfl⟩
    intro slice hslice
    exact (covered_iff hknown hdistinct hrequired hslice).mp (hcovered slice hslice)
  · rintro ⟨⟨hfields, hversion⟩, cases, hcases, ⟨hvalid, hknown, hdistinct, hrequired, hcaptured⟩,
      rfl⟩
    refine ⟨hfields, hversion, cases, ⟨hcases, ne_nil_of_required hrequired⟩, _,
      ⟨rfl, hvalid, hknown, hdistinct, fun _ _ => List.not_mem_nil⟩, ?_, ?_, rfl⟩
    · simpa only [List.mem_reverse] using hrequired
    · intro slice hslice
      exact (covered_iff hknown hdistinct hrequired hslice).mpr (hcaptured slice hslice)

/-- The captures that a bundle must have for a scenario. -/
def demandedCaptures : List (String × List String) :=
  [("read_aggregation_broker", ["captured_response"]),
   ("read_async_refresh_pending", ["captured_response", "captured_job"]),
   ("read_stale_binding_broker", ["captured_response"]),
   ("booking_submit_idempotent_replay", ["captured_write_result", "captured_write_replay"])]

theorem demandedCaptures_eq : bundleContract.requiredCoverageSlices.flatMap (fun slice =>
    slice.bearers.map fun id => (id, slice.requiredCaptureFields)) = demandedCaptures := by
  decide

/-- **When a bundle is admitted.** Exactly if its header is that of the contract, each of its cases
is valid and the only one of a scenario of the catalog, the required scenarios are there, and four
of them have the captures that the coverage slices demand. -/
theorem bundle_admitted_iff : Returns (validateEvalBundle host bundle) ↔
    ValidHeader bundle ∧ ∃ cases : List (Fields F), get bundle "cases" = .list (cases.map .dict) ∧
      (∀ case ∈ cases, validateEvalCase case = .ok () ∧
        (scenarioId host "" case, caseAssertions case) ∈ catalog) ∧
      (cases.map (scenarioId host "")).Nodup ∧
      (∀ id ∈ bundleContract.requiredScenarioIds, id ∈ cases.map (scenarioId host "")) ∧
      ∀ case ∈ cases, ∀ demanded ∈ demandedCaptures, demanded.1 = scenarioId host "" case →
        ∀ field ∈ demanded.2, get case field ≠ .none := by
  have hcatalog (id : String) (assertions : List String) :
      catalog.lookup id = some assertions ↔ (id, assertions) ∈ catalog := by
    have hall : ∀ scenario ∈ catalog, catalog.lookup scenario.1 = some scenario.2 := by decide
    refine ⟨fun h => ?_, hall (id, assertions)⟩
    obtain ⟨_, _, heq, -⟩ := List.lookup_eq_some_iff.mp h
    exact heq ▸ List.mem_append_right _ List.mem_cons_self
  have hcaptured (cases : List (Fields F)) :
      (∀ slice ∈ bundleContract.requiredCoverageSlices, ∀ case ∈ cases,
        scenarioId host "" case ∈ slice.bearers →
          ∀ field ∈ slice.requiredCaptureFields, get case field ≠ .none) ↔
      ∀ case ∈ cases, ∀ demanded ∈ demandedCaptures, demanded.1 = scenarioId host "" case →
        ∀ field ∈ demanded.2, get case field ≠ .none := by
    simp only [← demandedCaptures_eq, List.mem_flatMap, List.mem_map]
    constructor
    · rintro h case hcase _ ⟨slice, hslice, id, hid, rfl⟩ rfl
      exact h slice hslice case hcase hid
    · intro h slice hslice case hcase hbears
      exact h case hcase (_, slice.requiredCaptureFields) ⟨slice, hslice, _, hbears, rfl⟩ rfl
  constructor
  · rintro ⟨_, h⟩
    obtain ⟨hheader, cases, hcases, hvalid, -⟩ := validateEvalBundle_eq_ok_iff.mp h
    exact ⟨hheader, cases, hcases, fun case hcase =>
      ⟨hvalid.valid case hcase, (hcatalog _ _).mp (hvalid.known case hcase)⟩,
      hvalid.distinct, hvalid.required, (hcaptured cases).mp hvalid.captured⟩
  · rintro ⟨hheader, cases, hcases, hvalid, hdistinct, hrequired, hdemanded⟩
    exact ⟨_, validateEvalBundle_eq_ok_iff.mpr ⟨hheader, cases, hcases,
      ⟨fun case hcase => (hvalid case hcase).1,
        fun case hcase => (hcatalog _ _).mpr (hvalid case hcase).2,
        hdistinct, hrequired, (hcaptured cases).mpr hdemanded⟩, rfl⟩⟩

/-! ### The report -/

/-- Whether the run of a case returns and the score of its result is `pass`. -/
def passes (host : EvalHost F) (case : Fields F) : Bool :=
  (runEvalCase host case).toOption.any fun result =>
    (scoreReleaseGates host result).overall = "pass"

/-- The report on a case whose run returns. -/
def caseReport (host : EvalHost F) (case : Fields F) : CaseReport F :=
  let result := (runEvalCase host case).toOption.getD []
  ⟨scenarioId host "unknown" case, result, scoreReleaseGates host result⟩

/-- The scenarios of the cases that do not pass. -/
def failing (host : EvalHost F) (cases : List (Fields F)) : List String :=
  (cases.filter fun case => !passes host case).map (scenarioId host "unknown")

/-- The report on cases whose runs return. -/
def bundleReport (host : EvalHost F) (bundle : Fields F) (cases : List (Fields F)) :
    BundleReport F where
  bundleId := host.text ((bundle.lookup "bundle_id").getD (.str "unknown"))
  validation := validationOf cases.length
  cases := cases.map (caseReport host)
  overall := if cases.all (passes host) then "pass" else "fail"
  pass := cases.countP (passes host)
  fail := cases.countP fun case => !passes host case
  total := cases.length
  failedScenarios := failing host cases

/-- A round counts a case whose run returns, and raises as the run does otherwise. -/
theorem runCase_eq_ok_iff {tally tally' : Tally F} :
    runCase host tally case = .ok tally' ↔ Returns (runEvalCase host case) ∧
      tally' =
        { caseResults := tally.caseResults ++ [caseReport host case]
          passCount := tally.passCount + if passes host case then 1 else 0
          failedScenarios := tally.failedScenarios ++ failing host [case] } := by
  rw [runCase]
  cases hrun : runEvalCase host case with
  | error e => exact iff_of_false nofun fun h => not_returns_error e h.1
  | ok result =>
    have hreport : caseReport host case =
        ⟨scenarioId host "unknown" case, result, scoreReleaseGates host result⟩ := by
      simp only [caseReport, hrun, Except.toOption, Option.getD_some]
    have hpasses : passes host case =
        decide ((scoreReleaseGates host result).overall = "pass") := by
      simp only [passes, hrun, Except.toOption, Option.any_some]
    simp only [ok_bind, returns_ok, true_and, hreport, failing, List.filter_cons, List.filter_nil,
      hpasses]
    by_cases h : (scoreReleaseGates host result).overall = "pass"
    · simp [h, pure, Except.pure, eq_comm]
    · simp [h, pure, Except.pure, eq_comm]

/-- The loop over the cases returns exactly if all of their runs do. -/
theorem foldlM_runCase_eq_ok_iff {tally tally' : Tally F} :
    cases.foldlM (runCase host) tally = .ok tally' ↔
      (∀ case ∈ cases, Returns (runEvalCase host case)) ∧
        tally' =
          { caseResults := tally.caseResults ++ cases.map (caseReport host)
            passCount := tally.passCount + cases.countP (passes host)
            failedScenarios := tally.failedScenarios ++ failing host cases } := by
  induction cases generalizing tally with
  | nil => simp [failing, pure, Except.pure, eq_comm]
  | cons case cases ih =>
    have hfailing : failing host (case :: cases) = failing host [case] ++ failing host cases := by
      rw [failing, ← List.singleton_append, List.filter_append, List.map_append]
      rfl
    have hcount : (case :: cases).countP (passes host) =
        (if passes host case then 1 else 0) + cases.countP (passes host) := by
      rw [List.countP_cons, Nat.add_comm]
    simp only [List.foldlM_cons, bind_eq_ok, runCase_eq_ok_iff, ih, List.forall_mem_cons,
      List.map_cons, hcount, hfailing, and_assoc, exists_and_left, exists_eq_left,
      List.append_assoc, List.singleton_append, Nat.add_assoc]

theorem failing_eq_nil_iff : failing host cases = [] ↔ cases.all (passes host) = true := by
  rw [failing, List.map_eq_nil_iff, List.filter_eq_nil_iff, List.all_eq_true]
  simp only [Bool.not_eq_true', Bool.not_eq_false]

/-- **What a run of a bundle returns.** It returns exactly on a valid bundle whose cases all run
without an exception, and the report counts them and names those that fail. -/
theorem runEvalBundle_eq_ok_iff {report : BundleReport F} :
    runEvalBundle host bundle = .ok report ↔
      ValidHeader bundle ∧ ∃ cases, get bundle "cases" = .list (cases.map .dict) ∧
        ValidCases host cases ∧ (∀ case ∈ cases, Returns (runEvalCase host case)) ∧
        report = bundleReport host bundle cases := by
  have hoverall (cases : List (Fields F)) :
      (failing host cases).isEmpty = cases.all (passes host) := by
    rw [Bool.eq_iff_iff, List.isEmpty_iff, failing_eq_nil_iff]
  have hfail (cases : List (Fields F)) :
      (failing host cases).length = cases.countP fun case => !passes host case := by
    rw [failing, List.length_map, List.countP_eq_length_filter]
  simp only [runEvalBundle, bind_eq_ok, validateEvalBundle_eq_ok_iff, bundleCases_eq_ok_iff,
    foldlM_runCase_eq_ok_iff, pure, Except.pure, Except.ok.injEq]
  constructor
  · rintro ⟨_, ⟨hheader, cases, hcases, hvalid, rfl⟩, cases', ⟨hcases', -⟩, _, ⟨hruns, rfl⟩, rfl⟩
    obtain rfl : cases = cases' := by
      have heq := Loaded.list.inj (hcases.symm.trans hcases')
      rw [← filterMap_dict? cases, heq, filterMap_dict?]
    refine ⟨hheader, cases, hcases, hvalid, hruns, ?_⟩
    simp only [bundleReport, Tally.empty, List.nil_append, Nat.zero_add, hoverall, hfail]
  · rintro ⟨hheader, cases, hcases, hvalid, hruns, rfl⟩
    refine ⟨_, ⟨hheader, cases, hcases, hvalid, rfl⟩, cases,
      ⟨hcases, ne_nil_of_required hvalid.required⟩, _, ⟨hruns, rfl⟩, ?_⟩
    simp only [bundleReport, Tally.empty, List.nil_append, Nat.zero_add, hoverall, hfail]

/-- A valid case names its scenario, whatever the default is. -/
theorem scenarioId_eq (hcase : validateEvalCase case = .ok ()) :
    scenarioId host "unknown" case = scenarioId host "" case := by
  have hsome : (case.lookup "scenario_id").isSome = true :=
    isSome_of_validateEvalCase hcase (by decide)
  rw [scenarioId, scenarioId, getD_lookup hsome, getD_lookup hsome]

theorem overall_caseReport (hrun : Returns (runEvalCase host case)) :
    (caseReport host case).score.overall = "pass" ↔ passes host case = true := by
  obtain ⟨result, hrun⟩ := hrun
  simp only [caseReport, passes, hrun, Except.toOption, Option.getD_some, Option.any_some,
    decide_eq_true_eq]

/-- The case has run, and is reported under its scenario with its result and the score of that. -/
structure Reported (host : EvalHost F) (case : Fields F) (c : CaseReport F) : Prop where
  scenarioId : c.scenarioId = Evals.scenarioId host "" case
  result : runEvalCase host case = .ok c.result
  score : c.score = scoreReleaseGates host c.result

/-- What a report says about the cases of a bundle: each is reported, in its place, and its scenario
is named as failed exactly if its score is not `pass`, once. The counts add up, and the bundle
passes exactly if no scenario is named. -/
structure BundleReport.Exact (host : EvalHost F) (cases : List (Fields F))
    (report : BundleReport F) : Prop where
  reported : List.Forall₂ (Reported host) cases report.cases
  failed : ∀ c ∈ report.cases, c.scenarioId ∈ report.failedScenarios ↔ c.score.overall ≠ "pass"
  named : ∀ id ∈ report.failedScenarios, ∃ c ∈ report.cases, c.scenarioId = id
  once : report.failedScenarios.Nodup
  fail : report.fail = report.failedScenarios.length
  total : report.total = cases.length
  counts : report.pass + report.fail = report.total
  overall : report.overall = "pass" ↔ report.failedScenarios = []

theorem reported_caseReport (hcase : validateEvalCase case = .ok ())
    (hrun : Returns (runEvalCase host case)) : Reported host case (caseReport host case) := by
  obtain ⟨result, hrun⟩ := hrun
  have hresult : (runEvalCase host case).toOption.getD [] = result := by rw [hrun]; rfl
  exact ⟨scenarioId_eq hcase, by rw [hrun, caseReport, hresult], rfl⟩

/-- Of cases with different scenarios those are named that do not pass. -/
theorem mem_failing_iff (hdistinct : (cases.map (scenarioId host "unknown")).Nodup)
    (hcase : case ∈ cases) :
    scenarioId host "unknown" case ∈ failing host cases ↔ passes host case = false := by
  constructor
  · intro hmem
    obtain ⟨case', hcase', hid⟩ := List.mem_map.mp hmem
    obtain ⟨hmem', hfails⟩ := List.mem_filter.mp hcase'
    obtain rfl : case' = case := List.inj_on_of_nodup_map hdistinct hmem' hcase hid
    simpa using hfails
  · intro hfails
    exact List.mem_map.mpr ⟨case, List.mem_filter.mpr ⟨hcase, by rw [hfails]; rfl⟩, rfl⟩

/-- **What the score of a bundle counts.** The report of a run is exact about the cases of the
bundle. -/
theorem bundle_score_exact {report : BundleReport F} (h : runEvalBundle host bundle = .ok report) :
    ∃ cases, get bundle "cases" = .list (cases.map .dict) ∧ report.Exact host cases := by
  obtain ⟨-, cases, hcases, hvalid, hruns, rfl⟩ := runEvalBundle_eq_ok_iff.mp h
  have hids : cases.map (scenarioId host "unknown") = cases.map (scenarioId host "") :=
    List.map_congr_left fun case hcase => scenarioId_eq (hvalid.valid case hcase)
  have hdistinct : (cases.map (scenarioId host "unknown")).Nodup := hids ▸ hvalid.distinct
  refine ⟨cases, hcases, ?_⟩
  constructor
  case reported =>
    refine List.forall₂_map_right_iff.mpr (List.forall₂_same.mpr fun case hcase => ?_)
    exact reported_caseReport (hvalid.valid case hcase) (hruns case hcase)
  case failed =>
    rintro c hc
    obtain ⟨case, hcase, rfl⟩ := List.mem_map.mp hc
    rw [Ne, overall_caseReport (hruns case hcase), Bool.not_eq_true]
    exact mem_failing_iff hdistinct hcase
  case named =>
    rintro id hid
    obtain ⟨case, hcase, rfl⟩ := List.mem_map.mp hid
    exact ⟨_, List.mem_map_of_mem (List.mem_filter.mp hcase).1, rfl⟩
  case once => exact List.Nodup.sublist (List.filter_sublist.map _) hdistinct
  case fail => simp only [bundleReport, failing, List.length_map, List.countP_eq_length_filter]
  case total => rfl
  case counts =>
    show cases.countP (passes host) + cases.countP (fun case => !passes host case) = cases.length
    rw [List.length_eq_countP_add_countP (passes host) (l := cases)]
    simp only [Bool.not_eq_true, Bool.decide_eq_false]
  case overall =>
    simp only [bundleReport, failing_eq_nil_iff]
    split_ifs with hall
    · exact iff_of_true rfl hall
    · exact iff_of_false (by decide) hall

/-- Cases in another order are as valid. -/
theorem ValidCases.perm {cases' : List (Fields F)} (hperm : cases.Perm cases')
    (h : ValidCases host cases) : ValidCases host cases' where
  valid case hcase := h.valid case (hperm.mem_iff.mpr hcase)
  known case hcase := h.known case (hperm.mem_iff.mpr hcase)
  distinct := (hperm.map _).nodup_iff.mp h.distinct
  required id hid := (hperm.map _).mem_iff.mp (h.required id hid)
  captured slice hslice case hcase := h.captured slice hslice case (hperm.mem_iff.mpr hcase)

/-- The reports on cases in another order say the same. -/
structure SameScore (report report' : BundleReport F) : Prop where
  bundleId : report'.bundleId = report.bundleId
  validation : report'.validation = report.validation
  cases : report'.cases.Perm report.cases
  overall : report'.overall = report.overall
  pass : report'.pass = report.pass
  fail : report'.fail = report.fail
  total : report'.total = report.total
  failedScenarios : report'.failedScenarios.Perm report.failedScenarios

/-- **The order of the cases does not matter.** A bundle with its cases in another order is
validated and run alike, with the same score, the same counts and the same scenarios that fail. -/
theorem bundle_score_perm {bundle' : Fields F} {cases' : List (Fields F)} {report : BundleReport F}
    (hcases : get bundle "cases" = .list (cases.map .dict))
    (hcases' : get bundle' "cases" = .list (cases'.map .dict)) (hperm : cases.Perm cases')
    (hrest : ∀ name, name ≠ "cases" → bundle'.lookup name = bundle.lookup name)
    (h : runEvalBundle host bundle = .ok report) :
    ∃ report', runEvalBundle host bundle' = .ok report' ∧ SameScore report report' := by
  obtain ⟨hheader, cases₀, hcases₀, hvalid, hruns, rfl⟩ := runEvalBundle_eq_ok_iff.mp h
  obtain rfl : cases₀ = cases := by
    have heq := Loaded.list.inj (hcases₀.symm.trans hcases)
    rw [← filterMap_dict? cases₀, heq, filterMap_dict?]
  have hheader' : ValidHeader bundle' := by
    refine ⟨fun name hname => ?_, ?_⟩
    · by_cases heq : name = "cases"
      · rw [heq, lookup_of_get hcases' (by simp)]
        rfl
      · rw [hrest name heq]
        exact hheader.fields name hname
    · rw [get, hrest _ (by decide)]
      exact hheader.version
  refine ⟨bundleReport host bundle' cases', runEvalBundle_eq_ok_iff.mpr
    ⟨hheader', cases', hcases', hvalid.perm hperm,
      fun case hcase => hruns case (hperm.mem_iff.mpr hcase), rfl⟩, ?_⟩
  constructor
  · simp only [bundleReport, hrest "bundle_id" (by decide)]
  · simp only [bundleReport, hperm.length_eq]
  · exact (hperm.map _).symm
  · simp only [bundleReport, hperm.all_eq]
  · simp only [bundleReport, hperm.countP_eq]
  · simp only [bundleReport, hperm.countP_eq]
  · simp only [bundleReport, hperm.length_eq]
  · exact ((hperm.filter _).map _).symm

/-! ### Bundles that pass -/

/-- The scenarios that submit a booking. -/
def submitScenarios : List String :=
  ["booking_submit_after_confirmation", "booking_submit_idempotent_replay"]

/-- The assertions that do not hold without a response. -/
def responseBound : List String :=
  ["permission_context_applied", "session_metadata_present", "no_sensitive_fields",
   "office_scope_enforced", "denial_reason_permission", "denial_reason_sensitive_field",
   "denial_reason_unsupported_or_missing_confirmation", "confirmation_token_present"]

/-- What a case of a bundle that passes has captured. -/
structure Evidence (host : EvalHost F) (case : Fields F) : Prop where
  /-- A response that satisfies the contract, unless the case submits a booking. -/
  response : scenarioId host "" case ∉ submitScenarios →
    ∃ response, get case "captured_response" = .dict response ∧
      agentResponse.accepts ((Loaded.dict response).toJson host.toPythonText) = true
  /-- A write that was submitted after a confirmation, if the case submits a booking. -/
  write : scenarioId host "" case ∈ submitScenarios →
    ∃ writeResult, get case "captured_write_result" = .dict writeResult ∧
      get writeResult "status" = .str "submitted" ∧
      get writeResult "action_name" = .str "booking_create_confirmed" ∧
      host.truthy (get writeResult "confirmation_token") = true
  /-- The job of the response and its result, with the trace of the response. -/
  async : scenarioId host "" case = "read_async_refresh_pending" →
    ∃ response job result, get case "captured_response" = .dict response ∧
      get case "captured_job" = .dict job ∧ get job "result" = .dict result ∧
      host.eq (get job "job_id") (get response "job_id") = true ∧
      host.eq (get job "completed_response_id") (get result "response_id") = true ∧
      host.eq (get result "trace_id") (get response "trace_id") = true
  /-- A replay that is the same as the write. -/
  replay : scenarioId host "" case = "booking_submit_idempotent_replay" →
    ∃ writeResult writeReplay, get case "captured_write_result" = .dict writeResult ∧
      get case "captured_write_replay" = .dict writeReplay ∧
      host.eq (.dict writeResult) (.dict writeReplay) = true

theorem mem_responseBound_of_mem_catalog {id : String} {assertions : List String}
    (h : catalog.lookup id = some assertions) (hid : id ∉ submitScenarios) :
    ∃ name ∈ assertions, name ∈ responseBound := by
  have hall : ∀ scenario ∈ catalog, scenario.1 ∉ submitScenarios →
      ∃ name ∈ scenario.2, name ∈ responseBound := by decide
  obtain ⟨_, _, heq, -⟩ := List.lookup_eq_some_iff.mp h
  exact hall (id, assertions) (heq ▸ List.mem_append_right _ List.mem_cons_self) hid

/-- The assertions of the case have results, and with these each of its six gates is `pass`. -/
def GatesPass (host : EvalHost F) (case : Fields F) : Prop :=
  ∃ results gates, assertionResults host case = .ok results ∧
    gateResults host case results = .ok gates ∧ ∀ gate ∈ gates.toList, gate.2 = "pass"

/-- A case that passes has passed its gates. -/
theorem gatesPass_of_passes (h : passes host case = true) : GatesPass host case := by
  cases hrun : runEvalCase host case with
  | error e =>
    rw [passes, hrun] at h
    cases h
  | ok result =>
    simp only [passes, hrun, Except.toOption, Option.any_some, decide_eq_true_eq] at h
    obtain ⟨results, gates, -, hresults, hgates, rfl⟩ := runEvalCase_eq_ok hrun
    exact ⟨results, gates, hresults, hgates, overall_eq_pass_iff.mp h⟩

/-- A valid case that has passed its gates holds. -/
theorem GatesPass.caseHolds (h : GatesPass host case) (hcase : validateEvalCase case = .ok ()) :
    CaseHolds host case := by
  obtain ⟨results, gates, hresults, hgates, hpass⟩ := h
  exact caseHolds_of_gates hcase hresults hgates hpass

/-- The assertions of a valid case that holds are true of its captures. -/
theorem CaseHolds.assertionResult (h : CaseHolds host case) (hcase : validateEvalCase case = .ok ())
    {name : String} (hname : name ∈ caseAssertions case) :
    assertionResult host (captures case) name = .ok true := by
  obtain ⟨names, results, hnames, hresults, hall⟩ := h.assertions
  obtain ⟨hassertions, -⟩ := assertions_of_validateEvalCase hcase
  obtain ⟨b, hb, hlookup⟩ := lookup_assertionResults hresults hname
  have hmem : name ∈ names := by
    have heq := Loaded.list.inj (hassertions.symm.trans hnames)
    have hinj : Function.Injective (Loaded.str : String → Loaded F) := fun _ _ h =>
      Loaded.str.inj h
    rwa [← List.map_injective_iff.mpr hinj heq]
  have htrue := hall name hmem
  rw [hlookup, Option.some.injEq] at htrue
  rw [hb, htrue]

/-- An assertion on a response that holds has found one. -/
theorem exists_response (hname : name ∈ responseBound)
    (h : assertionResult host (captures case) name = .ok true) :
    ∃ response, capturedResponse case = some response := by
  cases hresponse : capturedResponse case with
  | some response => exact ⟨response, rfl⟩
  | none =>
    have hfalse (test : Fields F → Except EvalError Bool) :
        (captures case).ifResponse test = .ok false := by
      rw [Captures.ifResponse, captures, hresponse]
    have hresult : assertionResult host (captures case) name = .ok false := by
      simp only [responseBound, List.mem_cons, List.not_mem_nil, or_false] at hname
      rcases hname with rfl | rfl | rfl | rfl | rfl | rfl | rfl | rfl <;> exact hfalse _
    rw [hresult] at h
    cases h

theorem ifResponse_eq_true {c : Captures F} {test : Fields F → Except EvalError Bool}
    (h : c.ifResponse test = .ok true) :
    ∃ response, c.response = some response ∧ test response = .ok true := by
  rw [Captures.ifResponse] at h
  split at h
  · cases h
  · cases h
  · next response _ hresponse => exact ⟨response, hresponse, h⟩

theorem ifWriteResult_eq_true {c : Captures F} {test : Fields F → Except EvalError Bool}
    (h : c.ifWriteResult test = .ok true) :
    ∃ writeResult, c.writeResult = some writeResult ∧ test writeResult = .ok true := by
  rw [Captures.ifWriteResult] at h
  split at h
  · cases h
  · cases h
  · next writeResult _ hwriteResult => exact ⟨writeResult, hwriteResult, h⟩

theorem eq_dict_of_dict? {x : Loaded F} {fields : Fields F} (h : dict? x = some fields) :
    x = .dict fields := by
  cases x with
  | dict fields' => exact congrArg Loaded.dict (Option.some.inj h)
  | _ => cases h

/-- The write that a validated token has submitted. -/
theorem write_of_confirmationTokenValidated
    (h : confirmationTokenValidated host (captures case) = .ok true) :
    ∃ writeResult, get case "captured_write_result" = .dict writeResult ∧
      get writeResult "status" = .str "submitted" ∧
      get writeResult "action_name" = .str "booking_create_confirmed" ∧
      host.truthy (get writeResult "confirmation_token") = true := by
  obtain ⟨writeResult, hwriteResult, htest⟩ := ifWriteResult_eq_true h
  simp only [Except.ok.injEq, Bool.and_eq_true, isText_iff] at htest
  exact ⟨writeResult, eq_dict_of_dict? hwriteResult, htest.1.1.1, htest.1.1.2, htest.2⟩

/-- The job that an asynchronous completion is linked to. -/
theorem async_of_traceLinkedAsyncCompletion
    (h : traceLinkedAsyncCompletion host (captures case) = .ok true) :
    ∃ response job result, get case "captured_response" = .dict response ∧
      get case "captured_job" = .dict job ∧ get job "result" = .dict result ∧
      host.eq (get job "job_id") (get response "job_id") = true ∧
      host.eq (get job "completed_response_id") (get result "response_id") = true ∧
      host.eq (get result "trace_id") (get response "trace_id") = true := by
  obtain ⟨response, hresponse, htest⟩ := ifResponse_eq_true h
  simp only [Except.ok.injEq, Bool.and_eq_true, Option.any_eq_true] at htest
  obtain ⟨-, job, hjob, ⟨-, hjobId⟩, result, hresult, ⟨hresponseId, -⟩, htraceId⟩ := htest
  exact ⟨response, job, result, eq_dict_of_dict? hresponse, eq_dict_of_dict? hjob,
    eq_dict_of_dict? hresult, hjobId, hresponseId, htraceId⟩

/-- The replay that an idempotent replay is linked to. -/
theorem replay_of_idempotentReplayLinked
    (h : idempotentReplayLinked host (captures case) = .ok true) :
    ∃ writeResult writeReplay, get case "captured_write_result" = .dict writeResult ∧
      get case "captured_write_replay" = .dict writeReplay ∧
      host.eq (.dict writeResult) (.dict writeReplay) = true := by
  obtain ⟨writeResult, hwriteResult, htest⟩ := ifWriteResult_eq_true h
  split at htest
  · cases htest
  · cases htest
  · next writeReplay _ hreplay =>
    rw [ok_andM] at htest
    refine ⟨writeResult, writeReplay, eq_dict_of_dict? hwriteResult, eq_dict_of_dict? hreplay, ?_⟩
    by_contra heq
    rw [if_neg heq] at htest
    cases htest

/-- The assertions of a case that is known, by its scenario. -/
theorem mem_caseAssertions {id : String} {assertions : List String}
    (hknown : catalog.lookup (scenarioId host "" case) = some (caseAssertions case))
    (hid : scenarioId host "" case = id) (hcatalog : catalog.lookup id = some assertions)
    (hname : name ∈ assertions) : name ∈ caseAssertions case := by
  rw [hid, hcatalog, Option.some.injEq] at hknown
  rwa [← hknown]

/-- A valid case that is known and holds has captured the evidence for it. -/
theorem CaseHolds.evidence (h : CaseHolds host case) (hcase : validateEvalCase case = .ok ())
    (hknown : catalog.lookup (scenarioId host "" case) = some (caseAssertions case)) :
    Evidence host case where
  response hid := by
    obtain ⟨name, hname, hbound⟩ := mem_responseBound_of_mem_catalog hknown hid
    obtain ⟨response, hresponse⟩ := exists_response hbound (h.assertionResult hcase hname)
    exact ⟨response, capturedResponse_eq_some hresponse, (h.response response hresponse).contract⟩
  write hid := by
    have hname : "confirmation_token_validated" ∈ caseAssertions case := by
      simp only [submitScenarios, List.mem_cons, List.not_mem_nil, or_false] at hid
      rcases hid with hid | hid
      · exact mem_caseAssertions hknown hid rfl (by decide)
      · exact mem_caseAssertions hknown hid rfl (by decide)
    exact write_of_confirmationTokenValidated (h.assertionResult hcase hname)
  async hid :=
    have hname : "trace_linked_async_completion" ∈ caseAssertions case :=
      mem_caseAssertions hknown hid rfl (by decide)
    async_of_traceLinkedAsyncCompletion (h.assertionResult hcase hname)
  replay hid :=
    have hname : "idempotent_replay_linked" ∈ caseAssertions case :=
      mem_caseAssertions hknown hid rfl (by decide)
    replay_of_idempotentReplayLinked (h.assertionResult hcase hname)

/-- **What a bundle that passes says.** Every required scenario has a case of its own, every case
has passed its six gates and holds, and each has captured its evidence: a response that satisfies
the contract or a submitted write, the linked result of the job, and the identical replay. -/
theorem passing_bundle_sound {report : BundleReport F}
    (h : runEvalBundle host bundle = .ok report) (hpass : report.overall = "pass") :
    ∃ cases : List (Fields F), get bundle "cases" = .list (cases.map .dict) ∧
      (∀ id ∈ bundleContract.requiredScenarioIds,
        ∃! case, case ∈ cases ∧ scenarioId host "" case = id) ∧
      ∀ case ∈ cases, GatesPass host case ∧ CaseHolds host case ∧ Evidence host case := by
  obtain ⟨-, cases, hcases, hvalid, -, rfl⟩ := runEvalBundle_eq_ok_iff.mp h
  have hall : ∀ case ∈ cases, passes host case = true := by
    rw [← List.all_eq_true]
    by_contra hne
    rw [bundleReport, if_neg hne] at hpass
    have hfail : "fail" = "pass" := hpass
    exact absurd hfail (by decide)
  refine ⟨cases, hcases, fun id hid => ?_, fun case hcase => ?_⟩
  · obtain ⟨case, hcase, rfl⟩ := List.mem_map.mp (hvalid.required id hid)
    exact ⟨case, ⟨hcase, rfl⟩, fun case' h' => eq_of_scenarioId hvalid.distinct h'.1 hcase h'.2⟩
  · have hgates := gatesPass_of_passes (hall case hcase)
    have hholds := hgates.caseHolds (hvalid.valid case hcase)
    exact ⟨hgates, hholds, hholds.evidence (hvalid.valid case hcase) (hvalid.known case hcase)⟩

/-! ### A bundle that passes -/

section Example

/-- A response of the given kind with one component and further members. -/
def replayResponse (intentClass status denialReason : String) (toolPath : List String)
    (component members : Fields Empty) : Fields Empty :=
  [("contract_version", .str "0.1.0"), ("response_id", .str "resp-002"),
   ("request_id", .str "req-002"), ("trace_id", .str "trace-002"),
   ("intent_class", .str intentClass), ("status", .str status), ("summary", .str "Replayed."),
   ("components", .list [.dict component]), ("actions", .list []),
   ("policy", .dict
     [("permission_context_applied", .bool true), ("sensitive_fields_redacted", .bool true),
      ("write_confirmation_required", .bool false), ("denial_reason_class", .str denialReason)]),
   ("audit", .dict
     [("actor_role", .str "broker"), ("office_scope", .str "memphis"),
      ("tool_path", texts toolPath), ("response_generated_at", .str "2026-03-15T14:01:00Z")])] ++
    members

/-- A case of the catalog with its captures. -/
def replayCase (scenario intentClass : String) (toolPath components : List String)
    (captures : Fields Empty) : Fields Empty :=
  [("scenario_id", .str scenario), ("intent_class", .str intentClass),
   ("actor_role", .str "broker"), ("prompt", .str "Replay."), ("expected_gate", .str "allow"),
   ("expected_tool_path", texts toolPath), ("expected_response_components", texts components),
   ("assertions", texts ((catalog.lookup scenario).getD []))] ++ captures

/-- A message. -/
def messageBlock : Fields Empty :=
  [("component_id", .str "msg-1"), ("component_type", .str "message_block"),
   ("body", .str "Shipments of the office.")]

/-- A table with one row. -/
def tableBlock : Fields Empty :=
  [("component_id", .str "table-1"), ("component_type", .str "table"),
   ("columns", .list [.dict
     [("key", .str "carrier_id"), ("label", .str "Carrier"), ("data_type", .str "string")]]),
   ("rows", .list [.list [.str "carrier-4412"]])]

/-- The session and the job of an asynchronous response. -/
def asyncMembers : Fields Empty :=
  [("session_id", .str "chat_s_20260315_0002"), ("job_id", .str "job_20260315_abc123def456"),
   ("job_poll_token", .str "poll_token_async_abc123def456")]

/-- The result of a submitted booking. -/
def submittedWrite : Fields Empty :=
  [("status", .str "submitted"), ("action_name", .str "booking_create_confirmed"),
   ("quote_id", .str "quote-88219"), ("confirmation_token", .str "confirm-quote-88219"),
   ("office_id", .str "memphis"), ("actor_broker_id", .str "broker-mem-001"),
   ("audit", .dict
     [("tool_path", texts ["booking_create_confirmed"]),
      ("idempotency_key", .str "book-quote-88219-v1"), ("outcome", .str "submitted"),
      ("outcome_recorded_at", .str "2026-03-15T14:07:00Z"),
      ("actor_broker_id", .str "broker-mem-001"), ("office_id", .str "memphis")])]

/-- Cases of the required scenarios. -/
def replayCases : List (Fields Empty) :=
  let lookup := "shipment_exception_lookup"
  [metricCase,
   replayCase "read_async_refresh_pending" "read_pending" [] ["message_block"]
     [("captured_response",
        .dict (replayResponse "read_pending" "pending" "none" [] messageBlock asyncMembers)),
      ("captured_job", .dict
        [("job_id", .str "job_20260315_abc123def456"), ("completed_response_id", .str "resp-002"),
         ("result", .dict
           (replayResponse "read_result" "success" "none" [lookup] tableBlock asyncMembers))])],
   replayCase "read_stale_binding_broker" "read_result" [lookup] ["message_block"]
     [("captured_response", .dict
        (replayResponse "read_result" "success" "stale_state" [lookup] messageBlock
          [("session_id", .str "chat_s_20260315_0003"),
           ("context_binding_state", .str "stale")])),
      ("captured_latency_ms", .int 98)],
   replayCase "read_ranking_broker" "read_result" ["carrier_ranking_lookup"] ["table"]
     [("captured_response", .dict
        (replayResponse "read_result" "success" "none" ["carrier_ranking_lookup"] tableBlock []))],
   replayCase "read_multi_table_broker" "read_result" [lookup] ["table"]
     [("captured_response", .dict
        (replayResponse "read_result" "success" "none" [lookup] tableBlock []))],
   replayCase "booking_submit_after_confirmation" "write_submitted" ["booking_create_confirmed"]
     ["message_block"] [("captured_write_result", .dict submittedWrite)],
   replayCase "booking_submit_idempotent_replay" "write_submitted" ["booking_create_confirmed"]
     ["message_block"]
     [("captured_write_result", .dict submittedWrite),
      ("captured_write_replay", .dict submittedWrite)]]

/-- A bundle of the cases. -/
def replayBundle (cases : List (Fields Empty)) : Fields Empty :=
  [("bundle_id", .str "memphis_replay_bundle_v1"), ("contract_version", .str "0.1.0"),
   ("generated_at", .str "2026-03-15T14:00:00Z"), ("cases", .list (cases.map .dict))]

theorem exists_report_replayBundle : ∃ report,
    runEvalBundle plainHost (replayBundle replayCases) = .ok report ∧ report.overall = "pass" := by
  have hscore : (runEvalBundle plainHost (replayBundle replayCases)).toOption.map
      BundleReport.overall = some "pass" := by decide +kernel
  cases hrun : runEvalBundle plainHost (replayBundle replayCases) with
  | error e => rw [hrun] at hscore; cases hscore
  | ok report => rw [hrun] at hscore; exact ⟨report, rfl, Option.some.inj hscore⟩

theorem passing_bundle_sound_replay :
    ∃ cases : List (Fields Empty),
      get (replayBundle replayCases) "cases" = .list (cases.map .dict) ∧
      (∀ id ∈ bundleContract.requiredScenarioIds,
        ∃! case, case ∈ cases ∧ scenarioId plainHost "" case = id) ∧
      ∀ case ∈ cases, GatesPass plainHost case ∧ CaseHolds plainHost case ∧
        Evidence plainHost case := by
  obtain ⟨report, hrun, hpass⟩ := exists_report_replayBundle
  exact passing_bundle_sound hrun hpass

theorem bundle_score_exact_replay : ∃ report,
    runEvalBundle plainHost (replayBundle replayCases) = .ok report ∧
      ∃ cases, get (replayBundle replayCases) "cases" = .list (cases.map .dict) ∧
        report.Exact plainHost cases := by
  obtain ⟨report, hrun, -⟩ := exists_report_replayBundle
  exact ⟨report, hrun, bundle_score_exact hrun⟩

theorem bundle_score_perm_replay : ∃ report report',
    runEvalBundle plainHost (replayBundle replayCases) = .ok report ∧
      runEvalBundle plainHost (replayBundle replayCases.reverse) = .ok report' ∧
      SameScore report report' := by
  obtain ⟨report, hrun, -⟩ := exists_report_replayBundle
  have hrest : ∀ name, name ≠ "cases" → (replayBundle replayCases.reverse).lookup name =
      (replayBundle replayCases).lookup name := by
    intro name hname
    simp only [replayBundle, List.lookup_cons, beq_eq_false_iff_ne.mpr hname]
  obtain ⟨report', hrun', hsame⟩ := bundle_score_perm rfl rfl
    (List.reverse_perm replayCases).symm hrest hrun
  exact ⟨report, report', hrun, hrun', hsame⟩

end Example

end Meridian.Evals
