import Meridian.Foundations.LoadedJson
import Meridian.Tools.Noninterference

/-!
# The bounds of a read

The days of a `created_at` window and the limit of a table pass through `_coerce_bounded_int`, once
where the filters are taken from the prompt and the tool arguments and once in the query. Windows
always have a default. A limit does not: a ranking without one returns every carrier that has a
shipment, and an exception view never has one.

## Main definitions

* `Meridian.Tools.ReadBounded`: the bounds on the tables and on the windows of a read.
* `Meridian.Tools.FewRows`: the condition on the call and the database.

## Main results

* `Meridian.Tools.read_bounded_iff`: a read is bounded exactly if the condition holds, and its
  windows always are.
* `Meridian.Tools.exceptions_unbounded`: six delayed shipments.
-/

namespace Meridian.Tools

open Foundations Db

/-! ### Bounded values -/

section Coerce

variable {py : Python} {rawValue : PyValue} {fieldName : String} {maximum n : ℤ}

/-- What `_coerce_bounded_int` returns lies between one and the maximum. -/
theorem coerceBoundedInt_bounds (hmaximum : 1 ≤ maximum)
    (h : coerceBoundedInt py rawValue fieldName maximum = .ok n) : 1 ≤ n ∧ n ≤ maximum := by
  unfold coerceBoundedInt at h
  dsimp only at h
  split at h
  · cases h
  · split at h
    · cases h
    · split_ifs at h with hvalue
      cases h
      exact ⟨le_min (not_lt.mp hvalue) hmaximum, min_le_right _ _⟩

theorem normalizeDateRangeDays_bounds (h : normalizeDateRangeDays py rawValue = .ok n) :
    1 ≤ n ∧ n ≤ maxReadDateRangeDays :=
  coerceBoundedInt_bounds (by decide) h

theorem normalizeLimit_bounds (h : normalizeLimit py rawValue = .ok n) :
    1 ≤ n ∧ n ≤ maxReadLimit :=
  coerceBoundedInt_bounds (by decide) h

end Coerce

/-! ### The bounds and the condition -/

/-- The rows of the table components of a result. -/
def tablesOf (result : Json) : List (List Json) :=
  ((result.getD "components").toItems.filter fun component =>
    (component.getD "component_type").toStr = "table").map fun component =>
      (component.getD "rows").toItems

variable (host : Host) (db : Database) (officeId : String) (call : ReadCall)

/-- The time is a cutoff some days, at least one and at most the maximum, before the latest
shipment of the office. -/
def WindowStart (cutoff : String) : Prop :=
  ∃ days, 1 ≤ days ∧ days ≤ maxReadDateRangeDays ∧ db.windowCutoff host officeId days = .ok cutoff

/-- The tables of a result are no longer than the limit, and the queries for metrics and rankings
look at bounded windows. -/
structure ReadBounded (result : Json) : Prop where
  tables : ∀ rows ∈ tablesOf result, rows.length ≤ maxReadLimit
  metrics : call.selectedToolName host.py = "shipment_metrics_lookup" →
    ∃ filters shipments cutoff,
      metricsFilters host.py call.prompt call.toolArguments = .ok filters ∧
      db.shipmentsForMetrics host officeId filters.dateRangeDays filters.shipmentMode
        filters.originRegion filters.destinationRegion = .ok shipments ∧
      WindowStart host db officeId cutoff ∧
      ∀ s ∈ shipments, notBefore (host.sql.datetime s.createdAt) (host.sql.datetime cutoff)
  ranking : call.selectedToolName host.py = "carrier_ranking_lookup" →
    ∃ filters query, rankingFilters host.py call.prompt call.toolArguments = .ok filters ∧
      db.rankingQuery host officeId filters.rankingMetric filters.dateRangeDays
        filters.shipmentMode filters.weightClass filters.region filters.limit = .ok query ∧
      WindowStart host db officeId query.cutoff

/-- The call names a limit: an argument that is not `None`, or, without such an argument, a prompt
with `top` and a number. -/
def ReadCall.NamesLimit (py : Python) (call : ReadCall) : Prop :=
  match call.toolArguments.bind (List.lookup "limit") with
  | some value => value ≠ .none
  | none => ∃ digits, (topLimitRe py).search call.prompt = some [digits]

/-- A shipment is in the view of exceptions, at a reference time. -/
def inExceptionView (filters : ExceptionFilters) (resourceId : Option String) (time : Datetime)
    (row : ShipmentRow × CarrierRow) : Bool :=
  matchesFilter host.sql filters.shipmentState row.1.shipmentStatus &&
    (match filters.exceptionType, filters.insuranceExpiryWindowDays with
      | "insurance_expiring", some days =>
        match Database.windowEnd time days with
        | .ok last => between (host.sql.date row.2.insuranceExpiryDate)
            (host.sql.date (.ofList (Datetime.isoDate time.ordinal))) (host.sql.date last)
        | .error _ => false
      | _, _ => row.1.exceptionType = some filters.exceptionType) &&
    resourceId.all (Database.matchesResource · row.1)

/-- The resource that a view is restricted to. -/
def ReadCall.resourceId : Option String :=
  call.activeResource.map fun fields => ((fields.lookup "resource_id").getD .none).toText host.py

/-- A ranking names a limit or has few carriers with matching shipments, and a view of exceptions
has few shipments. -/
structure FewRows : Prop where
  ranking : call.selectedToolName host.py = "carrier_ranking_lookup" →
    call.NamesLimit host.py ∨ ∀ filters query,
      rankingFilters host.py call.prompt call.toolArguments = .ok filters →
      db.rankingQuery host officeId filters.rankingMetric filters.dateRangeDays
        filters.shipmentMode filters.weightClass filters.region filters.limit = .ok query →
      (db.carriers.rows.countP fun c => 0 < db.shipmentCount host officeId query c) ≤ maxReadLimit
  exceptions : call.selectedToolName host.py = "shipment_exception_lookup" →
    ∀ filters time, exceptionFilters host.py call.prompt = .ok filters →
      db.referenceTimestamp host officeId = .ok time →
      (db.shipmentsWithCarriers officeId).countP
        (inExceptionView host filters (call.resourceId host) time) ≤ maxReadLimit

variable {host db officeId call} {result : Json}

/-! ### The tables of the responses -/

@[simp] theorem tablesOf_emptyReadResult (toolName summary : String) :
    tablesOf (emptyReadResult toolName summary) = [] := by
  rfl

theorem length_of_mem_tablesOf_rankingResult {rankingMetric : String} {rows : List RankingRow} :
    (∀ table ∈ tablesOf (rankingResult host rankingMetric rows), table.length ≤ maxReadLimit) ↔
      rows.length ≤ maxReadLimit := by
  cases rows with
  | nil => simp [rankingResult, maxReadLimit]
  | cons top rest =>
    have htables : tablesOf (rankingResult host rankingMetric (top :: rest)) =
        [(top :: rest).map fun row =>
          .arr [.str row.carrierName, .num row.onTimeRate, .num row.shipmentCount]] := by
      rfl
    rw [htables, List.forall_mem_singleton, List.length_map]

theorem length_of_mem_tablesOf_exceptionResult {events : String → List EventRow}
    {rows : List (ShipmentRow × CarrierRow)} :
    (∀ table ∈ tablesOf (exceptionResult events rows), table.length ≤ maxReadLimit) ↔
      rows.length ≤ maxReadLimit := by
  cases rows with
  | nil => simp [exceptionResult, maxReadLimit]
  | cons primary rest =>
    have htables : tablesOf (exceptionResult events (primary :: rest)) =
        [(primary :: rest).map fun row =>
          .arr [.str row.1.shipmentId, .strOrNull row.1.exceptionType, .str row.2.carrierName,
            .str row.1.etaAt]] := by
      rfl
    rw [htables, List.forall_mem_singleton, List.length_map]

theorem tablesOf_shipmentMetricsResponse
    (h : shipmentMetricsResponse host db officeId call = .ok result) : tablesOf result = [] := by
  simp only [shipmentMetricsResponse, bind_eq_ok] at h
  obtain ⟨filters, -, shipments, -, h⟩ := h
  split_ifs at h
  · cases h
    rfl
  · cases h
    rfl
  · cases h
    rfl

/-! ### The windows -/

theorem windowStart_of_days {py : Python} {rawValue : PyValue} {days : ℤ} {cutoff : String}
    (hdays : normalizeDateRangeDays py rawValue = .ok days)
    (hcutoff : db.windowCutoff host officeId days = .ok cutoff) :
    WindowStart host db officeId cutoff :=
  ⟨days, (normalizeDateRangeDays_bounds hdays).1, (normalizeDateRangeDays_bounds hdays).2, hcutoff⟩

/-- The shipments that metrics are computed from lie in a bounded window. -/
theorem windowStart_of_shipmentsForMetrics {dateRangeDays : ℤ}
    {shipmentMode originRegion destinationRegion : PyValue} {shipments : List ShipmentRow}
    (h : db.shipmentsForMetrics host officeId dateRangeDays shipmentMode originRegion
      destinationRegion = .ok shipments) :
    ∃ cutoff, WindowStart host db officeId cutoff ∧
      ∀ s ∈ shipments, notBefore (host.sql.datetime s.createdAt) (host.sql.datetime cutoff) := by
  simp only [Database.shipmentsForMetrics, bind_eq_ok] at h
  obtain ⟨days, hdays, cutoff, hcutoff, mode, -, origin, -, destination, -, h⟩ := h
  refine ⟨cutoff, windowStart_of_days hdays hcutoff, fun s hs => ?_⟩
  rw [← Except.ok.inj h, rankBy, List.mem_insertionSort, List.mem_filter] at hs
  simp only [Bool.and_eq_true, and_assoc] at hs
  exact hs.2.1

/-- A ranking looks at a bounded window, and its limit is bounded if it has one. -/
theorem rankingQuery_spec {rankingMetric : String} {dateRangeDays : ℤ}
    {shipmentMode weightClass region : PyValue} {limit : Option ℤ} {query : RankingQuery}
    (h : db.rankingQuery host officeId rankingMetric dateRangeDays shipmentMode weightClass region
      limit = .ok query) :
    WindowStart host db officeId query.cutoff ∧ (limit = none → query.limit = none) ∧
      (limit ≠ none → ∃ n, query.limit = some n ∧ 1 ≤ n ∧ n ≤ maxReadLimit) := by
  unfold Database.rankingQuery at h
  obtain ⟨metric, -, h⟩ := bind_eq_ok.mp h
  obtain ⟨days, hdays, h⟩ := bind_eq_ok.mp h
  cases limit with
  | none =>
    simp only [pure_bind, bind_eq_ok] at h
    obtain ⟨cutoff, hcutoff, mode, -, weight, -, area, -, h⟩ := h
    obtain rfl := Except.ok.inj h
    exact ⟨windowStart_of_days hdays hcutoff, fun _ => rfl, fun hne => absurd rfl hne⟩
  | some limit =>
    simp only [map_eq_pure_bind, bind_assoc, pure_bind, bind_eq_ok] at h
    obtain ⟨n, hn, cutoff, hcutoff, mode, -, weight, -, area, -, h⟩ := h
    obtain rfl := Except.ok.inj h
    exact ⟨windowStart_of_days hdays hcutoff, nofun,
      fun _ => ⟨n, rfl, normalizeLimit_bounds hn⟩⟩

/-! ### The limit of a ranking -/

theorem selectFilterValue_limit (toolArguments : Option (List (String × PyValue)))
    (fallback : PyValue) :
    selectFilterValue toolArguments ["limit"] fallback =
      (toolArguments.bind (List.lookup "limit")).getD fallback := by
  cases toolArguments with
  | none => rfl
  | some fields =>
    simp only [selectFilterValue, List.findSome?_cons, List.findSome?_nil, Option.bind_some]
    cases List.lookup "limit" fields with
    | none => rfl
    | some value => rfl

/-- The filters of a ranking have a limit exactly if the argument, or else the number of the prompt,
is not `None`. -/
theorem exists_topLimit {filters : RankingFilters}
    (h : rankingFilters host.py call.prompt call.toolArguments = .ok filters) :
    ∃ topLimit : PyValue,
      (topLimit ≠ .none ↔ ∃ digits, (topLimitRe host.py).search call.prompt = some [digits]) ∧
      (filters.limit ≠ none ↔ selectFilterValue call.toolArguments ["limit"] topLimit ≠ .none) := by
  unfold rankingFilters at h
  obtain ⟨days, -, h⟩ := bind_eq_ok.mp h
  dsimp only at h
  split at h
  · next digits hsearch =>
    simp only [map_eq_pure_bind, bind_assoc, pure_bind, bind_eq_ok] at h
    obtain ⟨n, -, metric, -, range, -, h⟩ := h
    refine ⟨.int n, iff_of_true nofun ⟨digits, hsearch⟩, ?_⟩
    split at h
    · next hraw =>
      obtain rfl := Except.ok.inj h
      exact iff_of_false (fun hne => hne rfl) fun hne => hne hraw
    · next hraw =>
      obtain ⟨limit, -, h⟩ := bind_eq_ok.mp h
      obtain rfl := Except.ok.inj h
      exact iff_of_true nofun hraw
  · next hsearch =>
    simp only [map_eq_pure_bind, bind_assoc, pure_bind, bind_eq_ok] at h
    obtain ⟨metric, -, range, -, h⟩ := h
    refine ⟨.none, iff_of_false (fun hne => hne rfl) fun ⟨digits, hd⟩ => hsearch digits hd, ?_⟩
    split at h
    · next hraw =>
      obtain rfl := Except.ok.inj h
      exact iff_of_false (fun hne => hne rfl) fun hne => hne hraw
    · next hraw =>
      obtain ⟨limit, -, h⟩ := bind_eq_ok.mp h
      obtain rfl := Except.ok.inj h
      exact iff_of_true nofun hraw

/-- The filters of a ranking have a limit exactly if the call names one. -/
theorem limit_ne_none_iff {filters : RankingFilters}
    (h : rankingFilters host.py call.prompt call.toolArguments = .ok filters) :
    filters.limit ≠ none ↔ call.NamesLimit host.py := by
  obtain ⟨topLimit, htop, hlimit⟩ := exists_topLimit h
  rw [hlimit, selectFilterValue_limit, ReadCall.NamesLimit]
  cases call.toolArguments.bind (List.lookup "limit") with
  | none => exact htop
  | some value => exact Iff.rfl

/-- The number of rows of a ranking. -/
theorem length_selectRanking {query : RankingQuery} :
    (db.selectRanking host officeId query).length ≤ maxReadLimit ↔
      (∃ n, query.limit = some n ∧ n ≤ maxReadLimit) ∨
      (db.carriers.rows.countP fun c => 0 < db.shipmentCount host officeId query c) ≤
        maxReadLimit := by
  have hrows : (rankBy (RankingRow.key query.rankingMetric) (countedRows CarrierRow.rankingRow
      db.carriers.rows (db.shipmentCount host officeId query))).length =
      db.carriers.rows.countP fun c => 0 < db.shipmentCount host officeId query c := by
    rw [rankBy, List.length_insertionSort, countedRows, List.length_map,
      List.countP_eq_length_filter]
  unfold Database.selectRanking
  dsimp only
  cases hlimit : query.limit with
  | none => simp [hrows]
  | some n =>
    simp only [List.length_take, hrows, maxReadLimit, Option.some.injEq, exists_eq_left']
    omega

/-! ### The rows of an exception view -/

/-- A view without a limit has all rows that it matches. -/
theorem length_shipmentsForExceptionView {filters : ExceptionFilters} {resourceId : Option String}
    {rows : List (ShipmentRow × CarrierRow)}
    (h : db.shipmentsForExceptionView host officeId filters.exceptionType filters.shipmentState
      filters.insuranceExpiryWindowDays none resourceId = .ok rows) :
    ∃ time, db.referenceTimestamp host officeId = .ok time ∧
      rows.length =
        (db.shipmentsWithCarriers officeId).countP
          (inExceptionView host filters resourceId time) := by
  unfold Database.shipmentsForExceptionView at h
  obtain ⟨time, htime, h⟩ := bind_eq_ok.mp h
  refine ⟨time, htime, ?_⟩
  dsimp only at h
  split at h
  · next days htype hdays =>
    simp only [pure_bind, bind_eq_ok] at h
    obtain ⟨last, hlast, h⟩ := h
    obtain rfl := Except.ok.inj h
    rw [rankBy, List.length_insertionSort, ← List.countP_eq_length_filter]
    refine List.countP_congr fun row _ => ?_
    simp only [inExceptionView, htype, hdays, hlast]
  · next hother =>
    simp only [pure_bind] at h
    obtain rfl := Except.ok.inj h
    rw [rankBy, List.length_insertionSort, ← List.countP_eq_length_filter]
    refine List.countP_congr fun row _ => ?_
    simp only [inExceptionView]

/-! ### Reads -/

/-- Metrics have no table. -/
theorem metrics_bounded (h : executeAllowlistedRead host db officeId call = .ok result)
    (htool : call.selectedToolName host.py = "shipment_metrics_lookup") :
    ReadBounded host db officeId call result := by
  simp only [executeAllowlistedRead, htool, ↓reduceIte] at h
  have htables := tablesOf_shipmentMetricsResponse h
  simp only [shipmentMetricsResponse, bind_eq_ok] at h
  obtain ⟨filters, hfilters, shipments, hshipments, -⟩ := h
  obtain ⟨cutoff, hcutoff, hwindow⟩ := windowStart_of_shipmentsForMetrics hshipments
  refine ⟨by simp [htables], fun _ => ?_, fun hranking => ?_⟩
  · exact ⟨filters, shipments, cutoff, hfilters, hshipments, hcutoff, hwindow⟩
  · rw [htool] at hranking
    exact absurd hranking (by decide)

/-- A ranking is bounded exactly if it has a limit or few rows. -/
theorem ranking_bounded_iff (h : executeAllowlistedRead host db officeId call = .ok result)
    (htool : call.selectedToolName host.py = "carrier_ranking_lookup") :
    ReadBounded host db officeId call result ↔ call.NamesLimit host.py ∨ ∀ filters query,
      rankingFilters host.py call.prompt call.toolArguments = .ok filters →
      db.rankingQuery host officeId filters.rankingMetric filters.dateRangeDays
        filters.shipmentMode filters.weightClass filters.region filters.limit = .ok query →
      (db.carriers.rows.countP fun c => 0 < db.shipmentCount host officeId query c) ≤
        maxReadLimit := by
  have hne : "carrier_ranking_lookup" ≠ "shipment_metrics_lookup" := by decide
  simp only [executeAllowlistedRead, htool, hne, ↓reduceIte, carrierRankingResponse,
    Database.carrierRankings, bind_assoc, pure_bind, bind_eq_ok] at h
  obtain ⟨filters, hfilters, query, hquery, h⟩ := h
  obtain rfl := Except.ok.inj h
  obtain ⟨hcutoff, hnone, hsome⟩ := rankingQuery_spec hquery
  have hlength : ReadBounded host db officeId call (rankingResult host filters.rankingMetric
      (db.selectRanking host officeId query)) ↔
      (db.selectRanking host officeId query).length ≤ maxReadLimit := by
    rw [← length_of_mem_tablesOf_rankingResult]
    refine ⟨ReadBounded.tables, fun htables => ⟨htables, fun hmetrics => ?_, fun _ => ?_⟩⟩
    · rw [htool] at hmetrics
      exact absurd hmetrics hne
    · exact ⟨filters, query, hfilters, hquery, hcutoff⟩
  rw [hlength, length_selectRanking, ← limit_ne_none_iff hfilters]
  constructor
  · rintro (⟨n, hn, -⟩ | hfew)
    · refine .inl fun hlimit => ?_
      rw [hnone hlimit] at hn
      cases hn
    · refine .inr fun filters' query' hfilters' hquery' => ?_
      obtain rfl := Except.ok.inj (hfilters.symm.trans hfilters')
      obtain rfl := Except.ok.inj (hquery.symm.trans hquery')
      exact hfew
  · rintro (hlimit | hfew)
    · obtain ⟨n, hn, -, hle⟩ := hsome hlimit
      exact .inl ⟨n, hn, hle⟩
    · exact .inr (hfew filters query hfilters hquery)

/-- A view of exceptions is bounded exactly if it has few rows. -/
theorem exceptions_bounded_iff (h : executeAllowlistedRead host db officeId call = .ok result)
    (htool : call.selectedToolName host.py = "shipment_exception_lookup") :
    ReadBounded host db officeId call result ↔ ∀ filters time,
      exceptionFilters host.py call.prompt = .ok filters →
      db.referenceTimestamp host officeId = .ok time →
      (db.shipmentsWithCarriers officeId).countP
        (inExceptionView host filters (call.resourceId host) time) ≤ maxReadLimit := by
  have hne : "shipment_exception_lookup" ≠ "shipment_metrics_lookup" := by decide
  have hne' : "shipment_exception_lookup" ≠ "carrier_ranking_lookup" := by decide
  simp only [executeAllowlistedRead, htool, hne, hne', ↓reduceIte, shipmentExceptionResponse,
    bind_eq_ok] at h
  obtain ⟨filters, hfilters, shipments, hshipments, h⟩ := h
  obtain rfl := Except.ok.inj h
  obtain ⟨time, htime, hlength⟩ := length_shipmentsForExceptionView hshipments
  have hbounded : ReadBounded host db officeId call
      (exceptionResult (db.shipmentEvents host officeId) shipments) ↔
        shipments.length ≤ maxReadLimit := by
    rw [← length_of_mem_tablesOf_exceptionResult]
    refine ⟨ReadBounded.tables, fun htables => ⟨htables, fun hmetrics => ?_, fun hranking => ?_⟩⟩
    · rw [htool] at hmetrics
      exact absurd hmetrics hne
    · rw [htool] at hranking
      exact absurd hranking hne'
  rw [hbounded, hlength]
  constructor
  · intro hfew filters' time' hfilters' htime'
    obtain rfl := Except.ok.inj (hfilters.symm.trans hfilters')
    obtain rfl := Except.ok.inj (htime.symm.trans htime')
    exact hfew
  · intro hfew
    exact hfew filters time hfilters htime

/-- **When reads are bounded.** A read that returns has tables of at most `MAX_READ_LIMIT` rows and
windows between one and `MAX_READ_DATE_RANGE_DAYS` days long, exactly if the condition holds. -/
theorem read_bounded_iff (h : executeAllowlistedRead host db officeId call = .ok result) :
    ReadBounded host db officeId call result ↔ FewRows host db officeId call := by
  by_cases hmetrics : call.selectedToolName host.py = "shipment_metrics_lookup"
  · refine iff_of_true (metrics_bounded h hmetrics) ⟨fun hranking => ?_, fun hexceptions => ?_⟩
    · rw [hmetrics] at hranking
      exact absurd hranking (by decide)
    · rw [hmetrics] at hexceptions
      exact absurd hexceptions (by decide)
  by_cases hranking : call.selectedToolName host.py = "carrier_ranking_lookup"
  · rw [ranking_bounded_iff h hranking]
    refine ⟨fun hfew => ⟨fun _ => hfew, fun hexceptions => ?_⟩, fun hfew => hfew.ranking hranking⟩
    rw [hranking] at hexceptions
    exact absurd hexceptions (by decide)
  by_cases hexceptions : call.selectedToolName host.py = "shipment_exception_lookup"
  · rw [exceptions_bounded_iff h hexceptions]
    exact ⟨fun hfew => ⟨fun hranking' => absurd hranking' hranking, fun _ => hfew⟩,
      fun hfew => hfew.exceptions hexceptions⟩
  · simp only [executeAllowlistedRead, hmetrics, hranking, hexceptions, ↓reduceIte] at h
    cases h

/-! ### Six delayed shipments -/

/-- A delayed shipment of Memphis. -/
def delayedShipment (shipmentId : String) : ShipmentRow :=
  ⟨shipmentId, "memphis", "broker-123", "carrier-1", none, "Southeast", "Midwest", "FTL", "delayed",
    some "delay", 30, "2026-03-13T14:00:00Z", "2026-03-12T14:00:00Z"⟩

/-- A database with six of them. -/
def delayedDatabase : Database :=
  { Database.empty with
    carriers := ⟨[⟨"carrier-1", "Red Freight", "FTL", 95, "2026-12-31"⟩], by decide⟩
    shipments := ⟨["ship-1", "ship-2", "ship-3", "ship-4", "ship-5", "ship-6"].map delayedShipment,
      by decide⟩ }

/-- A read without tool arguments. -/
def promptCall (prompt : String) : ReadCall := ⟨prompt, none, none, none⟩

/-- The tables of a read that returns, as the numbers of their rows. -/
def tableLengths (host : Host) (db : Database) (officeId : String) (call : ReadCall) :
    Option (List ℕ) :=
  (executeAllowlistedRead host db officeId call).toOption.map fun result =>
    (tablesOf result).map List.length

theorem exists_of_tableLengths {lengths : List ℕ}
    (h : tableLengths host db officeId call = some lengths) :
    ∃ result, executeAllowlistedRead host db officeId call = .ok result ∧
      (tablesOf result).map List.length = lengths := by
  unfold tableLengths at h
  cases hread : executeAllowlistedRead host db officeId call with
  | error e =>
    rw [hread] at h
    cases h
  | ok result =>
    rw [hread] at h
    exact ⟨result, rfl, Option.some.inj h⟩

/-- A ranking with a limit of 400. -/
def limitedRanking : ReadCall := ⟨"Rank carriers", none, none, some [("limit", .int 400)]⟩

/-- It is bounded, whatever the tables have. -/
theorem read_bounded_iff_ranking :
    ∃ result, executeAllowlistedRead asciiHost delayedDatabase "memphis"
        limitedRanking = .ok result ∧
      ReadBounded asciiHost delayedDatabase "memphis" limitedRanking result := by
  obtain ⟨result, hread, -⟩ := exists_of_tableLengths (show tableLengths asciiHost delayedDatabase
    "memphis" limitedRanking = some [1] by decide +kernel)
  have htool : limitedRanking.selectedToolName asciiHost.py = "carrier_ranking_lookup" := by
    decide +kernel
  have hlimit : limitedRanking.NamesLimit asciiHost.py := nofun
  refine ⟨result, hread, (read_bounded_iff hread).mpr ⟨fun _ => .inl hlimit, fun hother => ?_⟩⟩
  rw [htool] at hother
  exact absurd hother (by decide)

/-- **A table of six rows.** The view of delays has no limit. -/
theorem exceptions_unbounded :
    ∃ result, executeAllowlistedRead asciiHost delayedDatabase "memphis"
        (promptCall "Show delays") = .ok result ∧
      (tablesOf result).map List.length = [6] ∧
      ¬ ReadBounded asciiHost delayedDatabase "memphis" (promptCall "Show delays") result := by
  obtain ⟨result, hread, hlengths⟩ := exists_of_tableLengths (show tableLengths asciiHost
    delayedDatabase "memphis" (promptCall "Show delays") = some [6] by decide +kernel)
  refine ⟨result, hread, hlengths, fun h => ?_⟩
  obtain ⟨rows, hrows, hsix⟩ := List.mem_map.mp (hlengths ▸ List.mem_singleton_self 6)
  have hle := h.tables rows hrows
  rw [hsix] at hle
  exact absurd hle (by decide)

end Meridian.Tools
