import Meridian.Tools.ReadExecutor
import Mathlib.Data.List.Dedup

/-!
# Reads across offices

Whether a read with the permission of one office depends on rows of other offices. All queries
select shipments, events and brokers by their office, but the carrier ranking joins the quotes of
the shipments without a condition on the office of the quote. Its filters on weight class and region
then count a shipment by a quote that another office may own.

## Main definitions

* `Meridian.Tools.AgreeOn`: databases with the same carriers and the same rows of an office.
* `Meridian.Tools.ForeignQuotesDecide`: the reads that a quote of another office can change.

## Main results

* `Meridian.Tools.executeAllowlistedRead_noninterference_iff`: exactly these reads depend on rows of
  other offices.
-/

namespace Meridian.Tools

open Foundations Db

/-- The databases have the same carriers and the same rows of the office. -/
structure AgreeOn (officeId : String) (db db' : Database) : Prop where
  offices : db.offices.rows.filter (·.officeId = officeId) =
    db'.offices.rows.filter (·.officeId = officeId)
  brokers : db.brokers.rows.filter (·.officeId = officeId) =
    db'.brokers.rows.filter (·.officeId = officeId)
  carriers : db.carriers = db'.carriers
  quotes : db.quotes.rows.filter (·.officeId = officeId) =
    db'.quotes.rows.filter (·.officeId = officeId)
  shipments : db.shipmentsOf officeId = db'.shipmentsOf officeId
  events : db.eventsOf officeId = db'.eventsOf officeId

variable {host : Host} {db db' : Database} {officeId : String} {call : ReadCall}

/-! ### Reads without quotes -/

namespace AgreeOn

theorem refl : AgreeOn officeId db db := ⟨rfl, rfl, rfl, rfl, rfl, rfl⟩

theorem shipmentsWithCarriers (h : AgreeOn officeId db db') :
    db.shipmentsWithCarriers officeId = db'.shipmentsWithCarriers officeId := by
  rw [Database.shipmentsWithCarriers, h.shipments, h.carriers]
  rfl

theorem referenceTimestamp (h : AgreeOn officeId db db') :
    db.referenceTimestamp host officeId = db'.referenceTimestamp host officeId := by
  rw [Database.referenceTimestamp, h.shipments]
  rfl

theorem windowCutoff (h : AgreeOn officeId db db') :
    db.windowCutoff host officeId = db'.windowCutoff host officeId := by
  funext days
  rw [Database.windowCutoff, h.referenceTimestamp]
  rfl

theorem rankingQuery (h : AgreeOn officeId db db') :
    db.rankingQuery host officeId = db'.rankingQuery host officeId := by
  funext rankingMetric days shipmentMode weightClass region limit
  simp only [Database.rankingQuery, h.windowCutoff]

theorem shipmentsForMetrics (h : AgreeOn officeId db db') :
    db.shipmentsForMetrics host officeId = db'.shipmentsForMetrics host officeId := by
  funext days shipmentMode originRegion destinationRegion
  simp only [Database.shipmentsForMetrics, h.windowCutoff, h.shipments]

theorem shipmentsForExceptionView (h : AgreeOn officeId db db') :
    db.shipmentsForExceptionView host officeId = db'.shipmentsForExceptionView host officeId := by
  funext exceptionType shipmentState window limit resourceId
  simp only [Database.shipmentsForExceptionView, h.referenceTimestamp, h.shipmentsWithCarriers]

theorem shipmentEvents (h : AgreeOn officeId db db') :
    db.shipmentEvents host officeId = db'.shipmentEvents host officeId := by
  funext shipmentId
  rw [Database.shipmentEvents, h.events]
  rfl

/-- Every read but a carrier ranking depends on the office's rows only. -/
theorem executeAllowlistedRead (h : AgreeOn officeId db db')
    (hranking : carrierRankingResponse host db officeId call =
      carrierRankingResponse host db' officeId call ∨
        call.selectedToolName host.py ≠ "carrier_ranking_lookup") :
    executeAllowlistedRead host db officeId call =
      executeAllowlistedRead host db' officeId call := by
  simp only [Tools.executeAllowlistedRead, shipmentMetricsResponse, shipmentExceptionResponse,
    h.shipmentsForMetrics, h.shipmentsForExceptionView, h.shipmentEvents]
  rcases hranking with hranking | hranking
  · rw [hranking]
  · rw [if_neg hranking, if_neg hranking]

end AgreeOn

/-! ### Quotes of the office -/

section Quotes

variable (db officeId)

/-- The quote of the office with the given id. -/
def ownQuote (quoteId : String) : Option QuoteRow :=
  (db.quotes.lookup quoteId).filter (·.officeId = officeId)

/-- The quote of the office that a shipment refers to. -/
def ownQuoteOf (s : ShipmentRow) : Option QuoteRow := s.quoteId.bind (ownQuote db officeId)

/-- The shipment refers to a quote that is not the office's. -/
def exposed (s : ShipmentRow) : Bool := s.quoteId.isSome && (ownQuoteOf db officeId s).isNone

variable {db officeId} {id : String} {q : QuoteRow} {s : ShipmentRow}

theorem ownQuote_eq_some_iff : ownQuote db officeId id = some q ↔
    q ∈ db.quotes.rows.filter (·.officeId = officeId) ∧ q.quoteId = id := by
  rw [ownQuote, Option.filter_eq_some_iff, List.mem_filter]
  constructor
  · rintro ⟨hlookup, hoffice⟩
    exact ⟨⟨KeyedTable.mem_of_lookup hlookup, hoffice⟩, KeyedTable.key_of_lookup hlookup⟩
  · rintro ⟨⟨hmem, hoffice⟩, rfl⟩
    exact ⟨KeyedTable.lookup_of_mem hmem, hoffice⟩

theorem lookup_of_ownQuote (h : ownQuote db officeId id = some q) :
    db.quotes.lookup id = some q :=
  (Option.filter_eq_some_iff.mp h).1

theorem AgreeOn.ownQuote (h : AgreeOn officeId db db') :
    ownQuote db officeId = ownQuote db' officeId := by
  funext id
  ext q
  rw [ownQuote_eq_some_iff, ownQuote_eq_some_iff, h.quotes]

/-- A shipment that is not exposed joins the office's quote or none. -/
theorem quoteOf_of_not_exposed (h : exposed db officeId s = false) :
    db.quoteOf s = ownQuoteOf db officeId s := by
  rw [exposed, ownQuoteOf] at h
  rw [Database.quoteOf, ownQuoteOf]
  cases hid : s.quoteId with
  | none => rfl
  | some id =>
    rw [hid] at h
    obtain ⟨q, hq⟩ := Option.isSome_iff_exists.mp (by simpa using h)
    rw [Option.bind_some, Option.bind_some, hq, lookup_of_ownQuote hq]

end Quotes

/-! ### Counts -/

section Counts

variable (host db officeId) (query : RankingQuery) (carrier : CarrierRow)

/-- The shipments that the ranking counts by quotes of the office alone. -/
def ownCount : ℕ :=
  (db.shipmentsWithCarriers officeId).countP fun (s, c) =>
    c = carrier && query.admitsShipment host.sql s &&
      query.admitsQuote host.sql (ownQuoteOf db officeId s)

/-- The shipments that it counts if every quote of another office passes the filters. -/
def possibleCount : ℕ :=
  (db.shipmentsWithCarriers officeId).countP fun (s, c) =>
    c = carrier && query.admitsShipment host.sql s &&
      (query.admitsQuote host.sql (ownQuoteOf db officeId s) || exposed db officeId s)

variable {host db officeId query carrier} {quote : Option QuoteRow} {s : ShipmentRow}

theorem admitsQuote_none : query.admitsQuote host.sql none =
    (query.weightClass.isNone && query.region.isNone) := by
  rw [RankingQuery.admitsQuote]
  cases query.weightClass <;> cases query.region <;> rfl

/-- Without filters on the quote everything passes. -/
theorem admitsQuote_of_none (h : query.admitsQuote host.sql none = true) :
    query.admitsQuote host.sql quote = true := by
  rw [admitsQuote_none, Bool.and_eq_true, Option.isNone_iff_eq_none,
    Option.isNone_iff_eq_none] at h
  rw [RankingQuery.admitsQuote, h.1, h.2]
  rfl

theorem admitsQuote_quoteOf_of_own
    (h : query.admitsQuote host.sql (ownQuoteOf db officeId s) = true) :
    query.admitsQuote host.sql (db.quoteOf s) = true := by
  cases hs : exposed db officeId s with
  | false => rwa [quoteOf_of_not_exposed hs]
  | true =>
    rw [exposed, Bool.and_eq_true, Option.isNone_iff_eq_none] at hs
    rw [hs.2] at h
    exact admitsQuote_of_none h

theorem ownCount_le_shipmentCount :
    ownCount host db officeId query carrier ≤ db.shipmentCount host officeId query carrier := by
  refine List.countP_mono_left fun r _ h => ?_
  simp only [Bool.and_eq_true] at h ⊢
  exact ⟨h.1, admitsQuote_quoteOf_of_own h.2⟩

theorem shipmentCount_le_possibleCount :
    db.shipmentCount host officeId query carrier ≤
      possibleCount host db officeId query carrier := by
  refine List.countP_mono_left fun r _ h => ?_
  simp only [Bool.and_eq_true, Bool.or_eq_true] at h ⊢
  refine ⟨h.1, ?_⟩
  cases hs : exposed db officeId r.1 with
  | false => exact .inl (quoteOf_of_not_exposed hs ▸ h.2)
  | true => exact .inr rfl

theorem AgreeOn.ownCount (h : AgreeOn officeId db db') :
    ownCount host db officeId = ownCount host db' officeId := by
  funext query carrier
  simp only [Tools.ownCount, h.shipmentsWithCarriers, ownQuoteOf, h.ownQuote]

theorem AgreeOn.possibleCount (h : AgreeOn officeId db db') :
    possibleCount host db officeId = possibleCount host db' officeId := by
  funext query carrier
  simp only [Tools.possibleCount, h.shipmentsWithCarriers, exposed, ownQuoteOf, h.ownQuote]

/-- The bounds differ by the exposed shipments that filters on the quote concern. -/
theorem ownCount_lt_possibleCount_iff :
    ownCount host db officeId query carrier < possibleCount host db officeId query carrier ↔
      (query.weightClass.isSome ∨ query.region.isSome) ∧
        ∃ s, (s, carrier) ∈ db.shipmentsWithCarriers officeId ∧
          query.admitsShipment host.sql s = true ∧ exposed db officeId s = true := by
  have hfilter : (query.weightClass.isSome ∨ query.region.isSome) ↔
      query.admitsQuote host.sql none = false := by
    rw [admitsQuote_none]
    cases query.weightClass <;> cases query.region <;> simp
  rw [hfilter]
  constructor
  · intro h
    by_contra hno
    refine h.not_ge (List.countP_mono_left fun r hr hp => ?_)
    simp only [Bool.and_eq_true, Bool.or_eq_true, decide_eq_true_eq] at hp ⊢
    obtain ⟨⟨hcarrier, hshipment⟩, hown | hexposed⟩ := hp
    · exact ⟨⟨hcarrier, hshipment⟩, hown⟩
    · refine ⟨⟨hcarrier, hshipment⟩, admitsQuote_of_none ?_⟩
      by_contra hnone
      exact hno ⟨by simpa using hnone, r.1, hcarrier ▸ hr, hshipment, hexposed⟩
  · rintro ⟨hnone, s, hmem, hshipment, hexposed⟩
    have hown : ownQuoteOf db officeId s = none := by
      rw [exposed, Bool.and_eq_true, Option.isNone_iff_eq_none] at hexposed
      exact hexposed.2
    refine countP_lt_countP (fun r _ hp => ?_) hmem ?_ ?_
    · simp only [Bool.and_eq_true, Bool.or_eq_true] at hp ⊢
      exact ⟨hp.1, .inl hp.2⟩
    · simp [hown, hnone]
    · simp [hshipment, hexposed]

end Counts

/-! ### Quotes of another office -/

section ForeignQuotes

variable (db officeId) (ids : List String) (row : String → QuoteRow)

/-- The office's quotes, and foreign ones for those of the ids that the office has no quote for. -/
def withForeignQuotes (hrow : ∀ id, (row id).quoteId = id) : Database :=
  { db with
    quotes :=
      { rows := db.quotes.rows.filter (·.officeId = officeId) ++
          (ids.dedup.filter fun id => (ownQuote db officeId id).isNone).map row
        nodup := by
          have hids : ((ids.dedup.filter fun id => (ownQuote db officeId id).isNone).map row).map
              QuoteRow.quoteId = ids.dedup.filter fun id => (ownQuote db officeId id).isNone := by
            rw [List.map_map]
            exact (List.map_congr_left fun id _ => hrow id).trans (List.map_id _)
          rw [List.map_append, hids]
          refine (db.quotes.nodup.sublist (List.filter_sublist.map _)).append
            (ids.nodup_dedup.filter _) fun id hown hforeign => ?_
          obtain ⟨q, hq, rfl⟩ := List.mem_map.mp hown
          have := ownQuote_eq_some_iff.mpr ⟨hq, rfl⟩
          simp [this] at hforeign } }

variable {db officeId ids row} {hrow : ∀ id, (row id).quoteId = id}

theorem agreeOn_withForeignQuotes (hoffice : ∀ id, (row id).officeId ≠ officeId) :
    AgreeOn officeId db (withForeignQuotes db officeId ids row hrow) where
  offices := rfl
  brokers := rfl
  carriers := rfl
  shipments := rfl
  events := rfl
  quotes := by
    have hnone : ((ids.dedup.filter fun id => (ownQuote db officeId id).isNone).map row).filter
        (·.officeId = officeId) = [] := by
      rw [List.filter_eq_nil_iff]
      intro q hq
      obtain ⟨id, -, rfl⟩ := List.mem_map.mp hq
      simpa using hoffice id
    rw [withForeignQuotes, List.filter_append, hnone, List.append_nil, List.filter_filter]
    simp

/-- A quote of the office is found as before, and an id of the list finds its foreign quote. -/
theorem lookup_withForeignQuotes (id : String) :
    (withForeignQuotes db officeId ids row hrow).quotes.lookup id =
      (ownQuote db officeId id).or (if id ∈ ids then some (row id) else none) := by
  set t := (withForeignQuotes db officeId ids row hrow).quotes with ht
  have hrows : t.rows = db.quotes.rows.filter (·.officeId = officeId) ++
      (ids.dedup.filter fun id => (ownQuote db officeId id).isNone).map row := rfl
  cases hown : ownQuote db officeId id with
  | some q =>
    obtain ⟨hmem, rfl⟩ := ownQuote_eq_some_iff.mp hown
    exact KeyedTable.lookup_of_mem (hrows ▸ List.mem_append_left _ hmem)
  | none =>
    rw [Option.none_or]
    split_ifs with hid
    · have hmem : row id ∈ t.rows := by
        rw [hrows]
        refine List.mem_append_right _ (List.mem_map_of_mem (List.mem_filter.mpr ⟨?_, ?_⟩))
        · rwa [List.mem_dedup]
        · rw [hown, Option.isNone_none]
      have hlookup := KeyedTable.lookup_of_mem hmem
      rwa [hrow] at hlookup
    · rw [KeyedTable.lookup_eq_none_iff, KeyedTable.keys, hrows, List.map_append, List.mem_append,
        not_or]
      constructor
      · intro hmem
        obtain ⟨q, hq, rfl⟩ := List.mem_map.mp hmem
        cases hown.symm.trans (ownQuote_eq_some_iff.mpr ⟨hq, rfl⟩)
      · intro hmem
        obtain ⟨q, hq, rfl⟩ := List.mem_map.mp hmem
        obtain ⟨id, hid', rfl⟩ := List.mem_map.mp hq
        rw [hrow] at hid
        exact hid (List.mem_dedup.mp (List.mem_filter.mp hid').1)

/-- Without foreign quotes the ranking counts by the office's. -/
theorem shipmentCount_withForeignQuotes_nil :
    (withForeignQuotes db officeId [] row hrow).shipmentCount host officeId =
      ownCount host db officeId := by
  have hquote : (withForeignQuotes db officeId [] row hrow).quoteOf = ownQuoteOf db officeId := by
    funext s
    rw [Database.quoteOf, ownQuoteOf]
    congr 1
    funext id
    rw [lookup_withForeignQuotes, if_neg List.not_mem_nil, Option.or_none]
  funext query carrier
  rw [Database.shipmentCount, hquote]
  rfl

/-- With a foreign quote that passes the filters for every exposed shipment, it counts these. -/
theorem shipmentCount_withForeignQuotes {query : RankingQuery} {carrier : CarrierRow}
    (hadmits : ∀ id, query.admitsQuote host.sql (some (row id)) = true) :
    (withForeignQuotes db officeId ((db.shipmentsOf officeId).filterMap ShipmentRow.quoteId) row
        hrow).shipmentCount host officeId query carrier =
      possibleCount host db officeId query carrier := by
  refine List.countP_congr fun r hr => ?_
  have hmem : r.1 ∈ db.shipmentsOf officeId := by
    obtain ⟨s, hs, hc⟩ := List.mem_filterMap.mp hr
    obtain ⟨c, -, rfl⟩ := Option.map_eq_some_iff.mp hc
    exact hs
  have hquote : query.admitsQuote host.sql ((withForeignQuotes db officeId
      ((db.shipmentsOf officeId).filterMap ShipmentRow.quoteId) row hrow).quoteOf r.1) =
      (query.admitsQuote host.sql (ownQuoteOf db officeId r.1) || exposed db officeId r.1) := by
    rw [Database.quoteOf, exposed, ownQuoteOf]
    cases hid : r.1.quoteId with
    | none => simp
    | some id =>
      have hids : id ∈ (db.shipmentsOf officeId).filterMap ShipmentRow.quoteId :=
        List.mem_filterMap.mpr ⟨r.1, hmem, hid⟩
      rw [Option.bind_some, Option.bind_some, lookup_withForeignQuotes, if_pos hids]
      cases ownQuote db officeId id with
      | none => simp [hadmits]
      | some q => simp
  simp only [hquote]

end ForeignQuotes

/-! ### Rankings -/

section Rankings

variable {query : RankingQuery}

/-- A limit that lets at most as many rows through as there are carriers. -/
theorem selectRanking_eq_take : db.selectRanking host officeId query =
    (rankBy (RankingRow.key query.rankingMetric) (countedRows CarrierRow.rankingRow
      db.carriers.rows (db.shipmentCount host officeId query))).take
      ((query.limit.map Int.toNat).getD (db.carriers.rows.length + 1)) := by
  rw [Database.selectRanking]
  cases query.limit with
  | some limit => rfl
  | none =>
    refine (List.take_of_length_le ?_).symm
    rw [rankBy, List.length_insertionSort, countedRows, List.length_map]
    exact (List.length_filter_le _ _).trans (Nat.le_succ _)

theorem rankingResult_injective (rankingMetric : String) :
    Function.Injective (rankingResult host rankingMetric) := by
  intro rows rows' h
  cases rows with
  | nil =>
    cases rows' with
    | nil => rfl
    | cons top rest => simp [rankingResult, emptyReadResult, readResult] at h
  | cons top rest =>
    cases rows' with
    | nil => simp [rankingResult, emptyReadResult, readResult] at h
    | cons top' rest' =>
      have hcell : Function.Injective fun row : RankingRow => Json.arr
          [.str row.carrierName, .num row.onTimeRate, .num row.shipmentCount] := by
        rintro ⟨name, rate, count⟩ ⟨name', rate', count'⟩ hrow
        simpa using hrow
      simp only [rankingResult, readResult, Json.obj.injEq, List.cons.injEq, Prod.mk.injEq,
        Json.arr.injEq, true_and, and_true] at h
      exact List.map_injective_iff.mpr hcell h.2

/-- The response is that for the rows of the statement, unless a check before it raises. -/
theorem carrierRankingResponse_eq : carrierRankingResponse host db officeId call = do
    let filters ← rankingFilters host.py call.prompt call.toolArguments
    let query ← db.rankingQuery host officeId filters.rankingMetric filters.dateRangeDays
      filters.shipmentMode filters.weightClass filters.region filters.limit
    return rankingResult host filters.rankingMetric (db.selectRanking host officeId query) := by
  simp only [carrierRankingResponse, Database.carrierRankings, bind_assoc, pure_bind]

end Rankings

/-! ### Which reads depend on other offices -/

section Decide

variable (host db officeId) (query : RankingQuery) (carrier : CarrierRow)

/-- The carriers that, counted by quotes of the office alone, rank at least as high as the carrier
with all the shipments that it may have. -/
def placedBefore : ℕ :=
  (countedRows CarrierRow.rankingRow db.carriers.rows (ownCount host db officeId query)).countP
    fun row =>
      (carrier.rankingRow (possibleCount host db officeId query carrier)).key query.rankingMetric ≤
        row.key query.rankingMetric

/-- Some shipment of the office that the statement considers refers to a quote that is not the
office's, while a filter asks for the quote; and counting it, its carrier can be within the
limit. -/
def QueryDecided : Prop :=
  (query.weightClass.isSome ∨ query.region.isSome) ∧
    ∃ s c, (s, c) ∈ db.shipmentsWithCarriers officeId ∧ query.admitsShipment host.sql s = true ∧
      exposed db officeId s = true ∧
      ∀ limit ∈ query.limit, placedBefore host db officeId query c < limit.toNat

/-- The read is a carrier ranking with valid arguments for whose query quotes of other offices can
decide. -/
def ForeignQuotesDecide (call : ReadCall) : Prop :=
  call.selectedToolName host.py = "carrier_ranking_lookup" ∧
    ∃ filters query, rankingFilters host.py call.prompt call.toolArguments = .ok filters ∧
      db.rankingQuery host officeId filters.rankingMetric filters.dateRangeDays
        filters.shipmentMode filters.weightClass filters.region filters.limit = .ok query ∧
      QueryDecided host db officeId query

variable {host db officeId query carrier}

theorem mem_carriers_of_mem {s : ShipmentRow} {c : CarrierRow}
    (h : (s, c) ∈ db.shipmentsWithCarriers officeId) : c ∈ db.carriers.rows := by
  obtain ⟨s', -, hmap⟩ := List.mem_filterMap.mp h
  obtain ⟨c', hlookup, heq⟩ := Option.map_eq_some_iff.mp hmap
  cases heq
  exact KeyedTable.mem_of_lookup hlookup

/-- Unless quotes of other offices decide, the statement returns the ranking by own quotes. -/
theorem selectRanking_eq (h : AgreeOn officeId db db')
    (hquery : ¬ QueryDecided host db officeId query) :
    db'.selectRanking host officeId query =
      (rankBy (RankingRow.key query.rankingMetric) (countedRows CarrierRow.rankingRow
        db.carriers.rows (ownCount host db officeId query))).take
        ((query.limit.map Int.toNat).getD (db.carriers.rows.length + 1)) := by
  have hlow : ∀ c ∈ db.carriers.rows,
      ownCount host db officeId query c ≤ db'.shipmentCount host officeId query c := by
    intro c _
    rw [h.ownCount]
    exact ownCount_le_shipmentCount
  have hhigh : ∀ c ∈ db.carriers.rows,
      db'.shipmentCount host officeId query c ≤ possibleCount host db officeId query c := by
    intro c _
    rw [h.possibleCount]
    exact shipmentCount_le_possibleCount
  rw [selectRanking_eq_take, ← h.carriers]
  refine take_rankBy_countedRows_eq (RankingRow.key_injective _)
    (key_rankingRow_strictMono query.rankingMetric) hlow hhigh fun c _ hlt => ?_
  obtain ⟨hfilter, s, hmem, hshipment, hexposed⟩ := ownCount_lt_possibleCount_iff.mp hlt
  have hlimit : ∃ limit ∈ query.limit, limit.toNat ≤ placedBefore host db officeId query c := by
    by_contra hno
    refine hquery ⟨hfilter, s, c, hmem, hshipment, hexposed, fun limit hl => ?_⟩
    by_contra hle
    exact hno ⟨limit, hl, not_lt.mp hle⟩
  obtain ⟨limit, hl, hle⟩ := hlimit
  rwa [Option.mem_def.mp hl]

/-- A quote of another office that passes the filters of a query. -/
def passingQuote (officeId : String) (query : RankingQuery) (quoteId : String) : QuoteRow where
  quoteId := quoteId
  officeId := officeId ++ "'"
  brokerId := ""
  carrierId := ""
  originRegion := query.region.getD ""
  destinationRegion := ""
  shipmentMode := ""
  weightClass := query.weightClass.getD ""
  pickupDate := ""
  quoteStatus := ""

theorem passingQuote_officeId_ne (quoteId : String) :
    (passingQuote officeId query quoteId).officeId ≠ officeId := by
  intro h
  have hlength := congrArg String.length h
  simp [passingQuote] at hlength

theorem admitsQuote_passingQuote (quoteId : String) :
    query.admitsQuote host.sql (some (passingQuote officeId query quoteId)) = true := by
  rw [RankingQuery.admitsQuote]
  cases hw : query.weightClass <;> cases hr : query.region <;> simp [passingQuote, hw, hr]

/-- Where quotes of other offices decide, two databases that agree on the office differ in what the
statement returns. -/
theorem exists_selectRanking_ne (hquery : QueryDecided host db officeId query) :
    ∃ db₁ db₂, AgreeOn officeId db db₁ ∧ AgreeOn officeId db db₂ ∧
      db₁.selectRanking host officeId query ≠ db₂.selectRanking host officeId query := by
  obtain ⟨hfilter, s, c, hmem, hshipment, hexposed, hlimit⟩ := hquery
  have hrow (id : String) : (passingQuote officeId query id).quoteId = id := rfl
  refine ⟨withForeignQuotes db officeId ((db.shipmentsOf officeId).filterMap ShipmentRow.quoteId)
      (passingQuote officeId query) hrow,
    withForeignQuotes db officeId [] (passingQuote officeId query) hrow,
    agreeOn_withForeignQuotes passingQuote_officeId_ne,
    agreeOn_withForeignQuotes passingQuote_officeId_ne, ?_⟩
  have hcount : (withForeignQuotes db officeId
      ((db.shipmentsOf officeId).filterMap ShipmentRow.quoteId) (passingQuote officeId query)
      hrow).shipmentCount host officeId query = possibleCount host db officeId query :=
    funext fun _ => shipmentCount_withForeignQuotes admitsQuote_passingQuote
  rw [selectRanking_eq_take, selectRanking_eq_take, hcount, shipmentCount_withForeignQuotes_nil]
  refine take_rankBy_countedRows_ne (RankingRow.key_injective _)
    (key_rankingRow_strictMono query.rankingMetric)
    (fun _ _ => ownCount_le_shipmentCount.trans shipmentCount_le_possibleCount)
    (mem_carriers_of_mem hmem)
    (ownCount_lt_possibleCount_iff.mpr ⟨hfilter, s, hmem, hshipment, hexposed⟩) ?_
  change placedBefore host db officeId query c < _
  cases hl : query.limit with
  | some limit => exact hlimit limit hl
  | none =>
    refine Nat.lt_succ_of_le (List.countP_le_length.trans ?_)
    rw [countedRows, List.length_map]
    exact List.length_filter_le _ _

/-- **Which reads depend on other offices.** A read with the permission of an office gives the same
result or error on every database with the same carriers and rows of the office, unless it is a
carrier ranking that quotes of other offices decide. -/
theorem executeAllowlistedRead_noninterference_iff (host : Host) (officeId : String)
    (call : ReadCall) (db : Database) :
    (∀ db', AgreeOn officeId db db' → executeAllowlistedRead host db' officeId call =
        executeAllowlistedRead host db officeId call) ↔
      ¬ ForeignQuotesDecide host db officeId call := by
  constructor
  · rintro hsame ⟨htool, filters, query, hfilters, hquery, hdecided⟩
    obtain ⟨db₁, db₂, h₁, h₂, hne⟩ := exists_selectRanking_ne hdecided
    have hread (db' : Database) (h : AgreeOn officeId db db') :
        executeAllowlistedRead host db' officeId call = .ok (rankingResult host
          filters.rankingMetric (db'.selectRanking host officeId query)) := by
      have hresponse : executeAllowlistedRead host db' officeId call =
          carrierRankingResponse host db' officeId call := by
        rw [executeAllowlistedRead, htool]
        rfl
      rw [hresponse, carrierRankingResponse_eq, hfilters, ← h.rankingQuery]
      change Except.bind (db.rankingQuery _ _ _ _ _ _ _ _) _ = _
      rw [hquery]
      rfl
    have heq := (hsame db₁ h₁).trans (hsame db₂ h₂).symm
    rw [hread db₁ h₁, hread db₂ h₂, Except.ok.injEq] at heq
    exact hne (rankingResult_injective _ heq)
  · intro hno db' h
    refine (h.executeAllowlistedRead ?_).symm
    by_cases htool : call.selectedToolName host.py = "carrier_ranking_lookup"
    swap
    · exact .inr htool
    left
    rw [carrierRankingResponse_eq, carrierRankingResponse_eq, ← h.rankingQuery]
    cases hfilters : rankingFilters host.py call.prompt call.toolArguments with
    | error e => rfl
    | ok filters =>
      change Except.bind (db.rankingQuery _ _ _ _ _ _ _ _) _ =
        Except.bind (db.rankingQuery _ _ _ _ _ _ _ _) _
      cases hquery : db.rankingQuery host officeId filters.rankingMetric filters.dateRangeDays
          filters.shipmentMode filters.weightClass filters.region filters.limit with
      | error e => rfl
      | ok query =>
        have hdecided : ¬ QueryDecided host db officeId query :=
          fun hd => hno ⟨htool, filters, query, hfilters, hquery, hd⟩
        exact congrArg (fun rows => Except.ok (rankingResult host filters.rankingMetric rows))
          ((selectRanking_eq .refl hdecided).trans (selectRanking_eq h hdecided).symm)

end Decide

section Memphis

/-! A ranking that a quote of another office decides. -/

/-- The functions of the host on ASCII texts and on times in UTC without fractions. -/
def asciiHost : Host where
  py :=
    { lower := fun text => .ofList (text.toList.map Char.toLower)
      isWord := fun c => c.isAlphanum || c = '_'
      isSpace := (· = ' ')
      isDigit := Char.isDigit
      sameLetter := fun a b => a.toLower = b.toLower
      int := fun text => text.toNat?.map Int.ofNat
      repr := fun _ => ""
      roundedMean := fun _ _ => 0 }
  sql :=
    { lower := fun text => .ofList (text.toList.map Char.toLower)
      datetime := fun text => some (Text.replace (Text.replace text "T" " ") "Z" "")
      date := fun text => some text
      realText := fun _ => "" }
  now := .first

/-- A ranking by weight class. -/
def weightRanking : ReadCall := ⟨"Rank carriers for 20,000 lb loads", none, none, none⟩

/-- A shipment of Memphis under a quote id, with the given quotes. -/
def memphisShipment (quotes : KeyedTable QuoteRow.quoteId) : Database :=
  { Database.empty with
    carriers := ⟨[⟨"carrier-1", "Blue Freight", "FTL", 95, "2026-12-31"⟩], by decide⟩
    quotes := quotes
    shipments :=
      ⟨[⟨"ship-1", "memphis", "broker-123", "carrier-1", some "quote-1", "Southeast", "Midwest",
        "FTL", "delivered", none, 30, "2026-03-13T14:00:00Z", "2026-03-12T14:00:00Z"⟩],
        by decide⟩ }

def nashvilleQuotes : KeyedTable QuoteRow.quoteId :=
  ⟨[⟨"quote-1", "nashville", "broker-9", "carrier-1", "Southeast", "Midwest", "FTL", "20000_plus",
    "2026-03-12", "booked"⟩], by decide⟩

end Memphis

/-- Whether another office has a quote of the number that a shipment refers to changes what Memphis
reads. -/
theorem foreign_quote_changes_ranking :
    ∃ (host : Host) (call : ReadCall) (db db' : Database), AgreeOn "memphis" db db' ∧
      executeAllowlistedRead host db "memphis" call ≠
        executeAllowlistedRead host db' "memphis" call := by
  let summary (db : Database) : Option Json :=
    (executeAllowlistedRead asciiHost db "memphis" weightRanking).toOption.map (Json.getD "summary")
  have hempty : (summary (memphisShipment .empty)).map Json.toStr =
      some "No Memphis carrier rankings matched the current scope." := by decide +kernel
  have hquote : (summary (memphisShipment nashvilleQuotes)).map Json.toStr =
      some "Top Memphis carrier is Blue Freight with 1 load(s)." := by decide +kernel
  refine ⟨asciiHost, weightRanking, memphisShipment .empty, memphisShipment nashvilleQuotes,
    ⟨rfl, rfl, rfl, rfl, rfl, rfl⟩, fun h => ?_⟩
  have hsame : summary (memphisShipment .empty) = summary (memphisShipment nashvilleQuotes) :=
    congrArg (fun r => r.toOption.map (Json.getD "summary")) h
  rw [hsame, hquote] at hempty
  exact absurd hempty (by decide)

end Meridian.Tools
