import Meridian.Db.Rows
import Meridian.Foundations.Datetime
import Meridian.Foundations.Python
import Meridian.Foundations.Ranking
import Meridian.Foundations.Text
import Mathlib.Data.Prod.Lex
import Mathlib.Order.WithBot
import Mathlib.Data.String.Basic
import Mathlib.Algebra.Order.Ring.Rat
import Mathlib.Data.Nat.Cast.Order.Ring

/-!
# The read repository

The queries of `backend/app/db/read_repository.py`. A table lists its rows in the order of their row
ids, so a query without further order returns them in this order, and texts compare by code points.
SQLite's functions on times and its text of a real number are parameters.

## Main definitions

* `Meridian.Db.Database.shipmentsOf`, `Meridian.Db.Database.eventsOf`: the rows of an office.
* `Meridian.Db.Database.shipmentsForMetrics`, `Meridian.Db.Database.carrierRankings`,
  `Meridian.Db.Database.shipmentsForExceptionView`: the queries of the read tools.
-/

namespace Meridian.Db

open Foundations

/-! ### Parameters and errors -/

/-- SQLite's functions that its documentation describes, and its text of a real number. -/
structure Sqlite where
  lower : String → String
  datetime : String → Option String
  date : String → Option String
  realText : ℚ → String

/-- What a read depends on besides its arguments and the database. -/
structure Host where
  py : Python
  sql : Sqlite
  now : UtcTime

/-- The exceptions of a read: a `ValueError` of the code or of `int` or `fromisoformat` on a text,
the `TypeError` of a value that cannot be hashed, an `OverflowError` and SQLite's error for a
parameter that it does not support. -/
inductive ReadError
  | valueError (message : String)
  | invalidInt (text : String)
  | isoformat (text : String)
  | unhashable (typeName : String)
  | overflow
  | binding
  deriving DecidableEq

/-! ### Bounded arguments -/

/-- `MAX_READ_DATE_RANGE_DAYS`. -/
def maxReadDateRangeDays : ℤ := 90

/-- `MAX_READ_LIMIT`. -/
def maxReadLimit : ℤ := 5

/-- `ALLOWED_SHIPMENT_METRICS`, sorted. -/
def allowedShipmentMetrics : List String := ["average_transit_time", "shipment_count"]

/-- `ALLOWED_RANKING_METRICS`, sorted. -/
def allowedRankingMetrics : List String := ["on_time_rate", "shipment_count"]

/-- `raw_value.get("days") or raw_value.get("value")` of a dictionary, and any other value. -/
def candidateOf : PyValue → PyValue
  | .dict fields =>
    let days := (fields.lookup "days").getD .none
    if days.truthy then days else (fields.lookup "value").getD .none
  | value => value

/-- `_coerce_bounded_int`. -/
def coerceBoundedInt (py : Python) (rawValue : PyValue) (fieldName : String) (maximum : ℤ) :
    Except ReadError ℤ :=
  let error := .error (.valueError (fieldName ++ " must be a positive integer"))
  match rawValue with
  | .bool _ => error
  | rawValue =>
    match (candidateOf rawValue).toInt py with
    | none => error
    | some value => if value < 1 then error else .ok (min value maximum)

/-- `normalize_date_range_days`. -/
def normalizeDateRangeDays (py : Python) (rawValue : PyValue) : Except ReadError ℤ :=
  coerceBoundedInt py rawValue "date_range" maxReadDateRangeDays

/-- `normalize_limit`. -/
def normalizeLimit (py : Python) (rawValue : PyValue) : Except ReadError ℤ :=
  coerceBoundedInt py rawValue "limit" maxReadLimit

/-- Membership in a set of texts that an error message lists. -/
def normalizeMember (fieldName : String) (allowed : List String) (rawValue : PyValue) :
    Except ReadError String :=
  match rawValue.unhashable with
  | some typeName => .error (.unhashable typeName)
  | none =>
    let error := .error (.valueError (fieldName ++ " must be one of [" ++
      ", ".intercalate (allowed.map fun text => "'" ++ text ++ "'") ++ "]"))
    match rawValue with
    | .str text => if text ∈ allowed then .ok text else error
    | _ => error

/-- `normalize_metric`. -/
def normalizeMetric : PyValue → Except ReadError String :=
  normalizeMember "metric" allowedShipmentMetrics

/-- `normalize_ranking_metric`. -/
def normalizeRankingMetric : PyValue → Except ReadError String :=
  normalizeMember "ranking_metric" allowedRankingMetrics

/-- The text that `lower(?)` is applied to, or nothing for a filter that is `None`. An integer binds
if it has 64 bits, a container does not. -/
def filterText (sql : Sqlite) : PyValue → Except ReadError (Option String)
  | .none => .ok none
  | .str text => .ok (some text)
  | .bool b => .ok (some (if b then "1" else "0"))
  | .int n => if -2 ^ 63 ≤ n ∧ n < 2 ^ 63 then .ok (some (toString n)) else .error .overflow
  | .float q => .ok (some (sql.realText q))
  | .list _ | .dict _ => .error .binding

/-! ### Comparisons -/

/-- `a >= b` of texts that may be `NULL`. -/
def notBefore : Option String → Option String → Bool
  | some a, some b => b ≤ a
  | _, _ => false

/-- `a BETWEEN b AND c` of texts that may be `NULL`. -/
def between (a b c : Option String) : Bool := notBefore a b && notBefore c a

/-- The place of a text that may be `NULL` in an order: `NULL` comes first. -/
def orderKey : Option String → WithBot String
  | none => ⊥
  | some text => text

/-- `lower(column) = lower(?)` if there is a filter. -/
def matchesFilter (sql : Sqlite) (filter : Option String) (column : String) : Bool :=
  filter.all fun text => sql.lower column = sql.lower text

/-! ### Carrier rankings -/

/-- What the ranking statement binds, with the filters that it has. -/
structure RankingQuery where
  rankingMetric : String
  cutoff : String
  shipmentMode : Option String
  weightClass : Option String
  region : Option String
  limit : Option ℤ

/-- The conditions on the shipment. -/
def RankingQuery.admitsShipment (sql : Sqlite) (query : RankingQuery) (s : ShipmentRow) : Bool :=
  notBefore (sql.datetime s.createdAt) (sql.datetime query.cutoff) &&
    matchesFilter sql query.shipmentMode s.shipmentMode

/-- The conditions on the quote, whose columns are `NULL` where there is none. -/
def RankingQuery.admitsQuote (sql : Sqlite) (query : RankingQuery) (quote : Option QuoteRow) :
    Bool :=
  (query.weightClass.all fun text =>
      quote.any fun q => sql.lower q.weightClass = sql.lower text) &&
    query.region.all fun text =>
      quote.any fun q =>
        sql.lower q.originRegion = sql.lower text || sql.lower q.destinationRegion = sql.lower text

/-- A row of a carrier ranking. -/
structure RankingRow where
  carrierName : String
  onTimeRate : ℚ
  shipmentCount : ℕ
  deriving DecidableEq

/-- `shipment_count DESC, on_time_rate DESC, carrier_name ASC`, or with the first two exchanged. -/
def RankingRow.key (rankingMetric : String) (row : RankingRow) : ℚ ×ₗ ℚ ×ₗ Stringᵒᵈ :=
  let name := OrderDual.toDual row.carrierName
  if rankingMetric = "shipment_count" then
    toLex (row.shipmentCount, toLex (row.onTimeRate, name))
  else toLex (row.onTimeRate, toLex ((row.shipmentCount : ℚ), name))

/-- The row of a carrier with a count. -/
def CarrierRow.rankingRow (c : CarrierRow) (shipmentCount : ℕ) : RankingRow :=
  ⟨c.carrierName, c.onTimeRate, shipmentCount⟩

/-- The columns of the order determine the row. -/
theorem RankingRow.key_injective (rankingMetric : String) :
    Function.Injective (RankingRow.key rankingMetric) := by
  rintro ⟨name, rate, count⟩ ⟨name', rate', count'⟩ h
  simp only [RankingRow.key] at h
  split_ifs at h <;> simp_all

/-- A carrier with more shipments comes earlier. -/
theorem key_rankingRow_strictMono (rankingMetric : String) (c : CarrierRow) :
    StrictMono fun n => (c.rankingRow n).key rankingMetric := by
  intro m n hmn
  have hcount : (m : ℚ) < n := Nat.cast_lt.mpr hmn
  simp only [RankingRow.key, CarrierRow.rankingRow]
  split_ifs
  · exact Prod.Lex.toLex_lt_toLex.mpr (.inl hcount)
  · exact Prod.Lex.toLex_lt_toLex.mpr (.inr ⟨rfl, Prod.Lex.toLex_lt_toLex.mpr (.inl hcount)⟩)

namespace Database

variable (host : Host) (db : Database) (officeId : String)

/-! ### The rows of an office -/

/-- `shipments WHERE office_id = ?`. -/
def shipmentsOf : List ShipmentRow := db.shipments.rows.filter (·.officeId = officeId)

/-- `shipment_events WHERE office_id = ?`. -/
def eventsOf : List EventRow := db.events.rows.filter (·.officeId = officeId)

/-! ### Times -/

/-- `_parse_timestamp`. -/
def parseTimestamp (now : UtcTime) (rawValue : Option String) : Except ReadError Datetime :=
  match rawValue with
  | none | some "" => .ok now.1
  | some text =>
    match Datetime.fromisoformat (Text.replace text "Z" "+00:00") with
    | none => .error (.isoformat text)
    | some time => .ok time

/-- `reference_timestamp`. -/
def referenceTimestamp : Except ReadError Datetime :=
  parseTimestamp host.now ((db.shipmentsOf officeId).map ShipmentRow.createdAt).max?

/-- The text of the time some days earlier. -/
def cutoff (time : Datetime) (days : ℤ) : Except ReadError String :=
  match Datetime.mk? (time.ordinal - days).toNat time.micros time.utcoffset with
  | none => .error .overflow
  | some time => .ok (Text.replace time.isoformat "+00:00" "Z")

/-- The cutoff of a window of days before the latest shipment of the office. -/
def windowCutoff (days : ℤ) : Except ReadError String := do
  cutoff (← db.referenceTimestamp host officeId) days

/-! ### Queries -/

/-- `shipment_events` of a shipment. -/
def shipmentEvents (shipmentId : String) : List EventRow :=
  ((db.eventsOf officeId).filter (·.shipmentId = shipmentId)).insertionSort fun a b =>
    orderKey (host.sql.datetime a.eventAt) ≤ orderKey (host.sql.datetime b.eventAt)

/-- `shipments_for_metrics`. -/
def shipmentsForMetrics (dateRangeDays : ℤ)
    (shipmentMode originRegion destinationRegion : PyValue) :
    Except ReadError (List ShipmentRow) := do
  let days ← normalizeDateRangeDays host.py (.int dateRangeDays)
  let cutoff ← db.windowCutoff host officeId days
  let mode ← filterText host.sql shipmentMode
  let origin ← filterText host.sql originRegion
  let destination ← filterText host.sql destinationRegion
  return rankBy (fun s => orderKey (host.sql.datetime s.createdAt)) <|
    (db.shipmentsOf officeId).filter fun s =>
      notBefore (host.sql.datetime s.createdAt) (host.sql.datetime cutoff) &&
        matchesFilter host.sql mode s.shipmentMode &&
        matchesFilter host.sql origin s.originRegion &&
        matchesFilter host.sql destination s.destinationRegion

/-- `shipments JOIN carriers WHERE shipments.office_id = ?`. -/
def shipmentsWithCarriers : List (ShipmentRow × CarrierRow) :=
  (db.shipmentsOf officeId).filterMap fun s =>
    (db.carriers.lookup s.carrierId).map fun c => (s, c)

/-- The row that `LEFT JOIN shipment_quotes` adds to a shipment, if there is one. -/
def quoteOf (s : ShipmentRow) : Option QuoteRow := s.quoteId.bind db.quotes.lookup

/-- `GROUP BY carriers.carrier_id` with `COUNT(*)`: the joined rows of each carrier. -/
def shipmentCount (query : RankingQuery) (carrier : CarrierRow) : ℕ :=
  (db.shipmentsWithCarriers officeId).countP fun (s, c) =>
    c = carrier && query.admitsShipment host.sql s && query.admitsQuote host.sql (db.quoteOf s)

/-- The rows that the ranking statement returns. -/
def selectRanking (query : RankingQuery) : List RankingRow :=
  let rows := rankBy (RankingRow.key query.rankingMetric)
    (countedRows CarrierRow.rankingRow db.carriers.rows (db.shipmentCount host officeId query))
  match query.limit with
  | none => rows
  | some limit => rows.take limit.toNat

/-- The checks of `carrier_rankings` up to the statement. -/
def rankingQuery (rankingMetric : String) (dateRangeDays : ℤ)
    (shipmentMode weightClass region : PyValue) (limit : Option ℤ) :
    Except ReadError RankingQuery := do
  let rankingMetric ← normalizeRankingMetric (.str rankingMetric)
  let days ← normalizeDateRangeDays host.py (.int dateRangeDays)
  let limit ← match limit with
    | none => pure none
    | some limit => some <$> normalizeLimit host.py (.int limit)
  let cutoff ← db.windowCutoff host officeId days
  let shipmentMode ← filterText host.sql shipmentMode
  let weightClass ← filterText host.sql weightClass
  let region ← filterText host.sql region
  return ⟨rankingMetric, cutoff, shipmentMode, weightClass, region, limit⟩

/-- `carrier_rankings`. -/
def carrierRankings (rankingMetric : String) (dateRangeDays : ℤ)
    (shipmentMode weightClass region : PyValue) (limit : Option ℤ) :
    Except ReadError (List RankingRow) := do
  let query ← db.rankingQuery host officeId rankingMetric dateRangeDays shipmentMode weightClass
    region limit
  return db.selectRanking host officeId query

/-- The last day of a window, as a date. -/
def windowEnd (time : Datetime) (days : ℤ) : Except ReadError String :=
  let ordinal := (time.ordinal + days).toNat
  if 1 ≤ ordinal ∧ ordinal ≤ maxOrdinal then .ok (.ofList (Datetime.isoDate ordinal))
  else .error .overflow

/-- The condition on the resource of a view. -/
def matchesResource (resourceId : String) (s : ShipmentRow) : Bool :=
  let normalized := Text.replace (Text.replace resourceId "quote-" "") "ship-" ""
  s.shipmentId = resourceId || s.quoteId = some resourceId ||
    Text.replace s.shipmentId "ship-" "" = normalized ||
    Text.replace (s.quoteId.getD "") "quote-" "" = normalized

/-- `shipments_for_exception_view`: the shipments with their carriers. -/
def shipmentsForExceptionView (exceptionType : String) (shipmentState : Option String)
    (insuranceExpiryWindowDays : Option ℤ) (limit : Option ℤ) (resourceId : Option String) :
    Except ReadError (List (ShipmentRow × CarrierRow)) := do
  let time ← db.referenceTimestamp host officeId
  let inView : ShipmentRow × CarrierRow → Bool ←
    match exceptionType, insuranceExpiryWindowDays with
    | "insurance_expiring", some days => do
      let last ← windowEnd time days
      pure fun (_, c) => between (host.sql.date c.insuranceExpiryDate)
        (host.sql.date (.ofList (Datetime.isoDate time.ordinal))) (host.sql.date last)
    | _, _ => pure fun (s, _) => s.exceptionType = some exceptionType
  let limit ← match limit with
    | none => pure none
    | some limit => some <$> normalizeLimit host.py (.int limit)
  let rows := rankBy (fun (s, _) => orderKey (host.sql.datetime s.createdAt)) <|
    (db.shipmentsWithCarriers officeId).filter fun r =>
      matchesFilter host.sql shipmentState r.1.shipmentStatus && inView r &&
        resourceId.all (matchesResource · r.1)
  match limit with
  | none => return rows
  | some limit => return rows.take limit.toNat

end Database

end Meridian.Db
