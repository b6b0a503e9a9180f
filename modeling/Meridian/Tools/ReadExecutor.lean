import Meridian.Db.ReadRepository
import Meridian.Foundations.Json

/-!
# The read executor

`execute_allowlisted_read` of `backend/app/tools/read_executor.py`: the choice of a read tool, the
filters that it takes from the prompt and the tool arguments, and the responses.

## Main definitions

* `Meridian.Tools.ReadCall`: the arguments of a read besides the permission context.
* `Meridian.Tools.executeAllowlistedRead`: the read.
-/

namespace Meridian.Tools

open Foundations Db

/-- The arguments of `execute_allowlisted_read` besides the permission context. -/
structure ReadCall where
  prompt : String
  activeResource : Option (List (String × PyValue))
  toolName : Option String
  toolArguments : Option (List (String × PyValue))

/-! ### The choice of the tool -/

/-- Whether one of the tokens occurs in the text. -/
def mentions (tokens : List String) (text : String) : Bool := tokens.any (Text.contains · text)

/-- `classify_read_tool`. -/
def classifyReadTool (py : Python) (prompt : String)
    (activeResource : Option (List (String × PyValue))) : String :=
  let promptText := py.lower prompt
  if activeResource.isSome then "shipment_exception_lookup"
  else if mentions ["top", "carrier", "on-time", "ranking"] promptText then
    "carrier_ranking_lookup"
  else if mentions ["insurance", "exception", "in-transit", "delay"] promptText then
    "shipment_exception_lookup"
  else "shipment_metrics_lookup"

/-- `tool_name or classify_read_tool(...)`. -/
def ReadCall.selectedToolName (py : Python) (call : ReadCall) : String :=
  match call.toolName with
  | none | some "" => classifyReadTool py call.prompt call.activeResource
  | some toolName => toolName

/-! ### What a prompt says -/

section Patterns

open Pattern

/-- `\b(last|next)\s+(\d+)\s+days?\b`, ignoring case. -/
def dayWindowRe (py : Python) : Pattern :=
  seq
    [boundary py.isWord,
     group (alt (text py.sameLetter "last") (text py.sameLetter "next")),
     plus py.isSpace, group (plus py.isDigit), plus py.isSpace,
     text py.sameLetter "day", optional (text py.sameLetter "s"), boundary py.isWord]

/-- `\btop\s+(\d+)\b`, ignoring case. -/
def topLimitRe (py : Python) : Pattern :=
  seq
    [boundary py.isWord, text py.sameLetter "top", plus py.isSpace, group (plus py.isDigit),
     boundary py.isWord]

/-- `\b([A-Za-z]+)\s+to\s+([A-Za-z]+)\b`. -/
def laneRe (py : Python) : Pattern :=
  seq
    [boundary py.isWord, group (plus Char.isAlpha), plus py.isSpace, text (· = ·) "to",
     plus py.isSpace, group (plus Char.isAlpha), boundary py.isWord]

end Patterns

variable (py : Python)

/-- `int` of the digits that a pattern has matched. -/
def parseInt (digits : String) : Except ReadError ℤ :=
  match py.int digits with
  | none => .error (.invalidInt digits)
  | some n => .ok n

/-- `_extract_day_window`. -/
def extractDayWindow (prompt direction : String) (defaultDays : ℤ) : Except ReadError ℤ :=
  match (dayWindowRe py).search prompt with
  | some [word, digits] =>
    if py.lower word = direction then parseInt py digits else .ok defaultDays
  | _ => .ok defaultDays

/-- `_extract_lane`. -/
def extractLane (prompt : String) : Option String × Option String :=
  match (laneRe py).search prompt with
  | some [origin, destination] => (some origin, some destination)
  | _ => (none, none)

/-- `_extract_shipment_mode`. -/
def extractShipmentMode (promptText : String) : Option String :=
  if Text.contains "ftl" promptText then some "FTL"
  else if Text.contains "ltl" promptText then some "LTL"
  else none

/-- `_extract_weight_class`. -/
def extractWeightClass (promptText : String) : Option String :=
  if mentions ["20,000", "20000", "20 000"] promptText then some "20000_plus" else none

/-- `_extract_region`, with the titles of the known regions. -/
def extractRegion (promptText : String) : Option String :=
  ([("southeast", "Southeast"), ("midwest", "Midwest"), ("northeast", "Northeast"),
    ("southwest", "Southwest"), ("northwest", "Northwest")].find? fun (region, _) =>
      Text.contains region promptText).map Prod.snd

/-- `_select_filter_value` for a key and its aliases. -/
def selectFilterValue (toolArguments : Option (List (String × PyValue))) (keys : List String)
    (fallback : PyValue) : PyValue :=
  match toolArguments with
  | none => fallback
  | some fields => (keys.findSome? (List.lookup · fields)).getD fallback

/-! ### Filters -/

/-- The result of `_metrics_filters`. -/
structure MetricsFilters where
  metric : String
  dateRangeDays : ℤ
  shipmentMode : PyValue
  originRegion : PyValue
  destinationRegion : PyValue

/-- `_metrics_filters`. -/
def metricsFilters (prompt : String) (toolArguments : Option (List (String × PyValue))) :
    Except ReadError MetricsFilters := do
  let promptText := py.lower prompt
  let (origin, destination) := extractLane py prompt
  let rawMetric := selectFilterValue toolArguments ["metric"]
    (.str (if Text.contains "transit" promptText then "average_transit_time" else "shipment_count"))
  let days ← extractDayWindow py prompt "last" 30
  let rawDateRange := selectFilterValue toolArguments ["date_range", "date_range_days"] (.int days)
  return {
    metric := ← normalizeMetric rawMetric
    dateRangeDays := ← normalizeDateRangeDays py rawDateRange
    shipmentMode := selectFilterValue toolArguments ["shipment_mode"]
      (.ofText (extractShipmentMode promptText))
    originRegion := selectFilterValue toolArguments ["origin_region"] (.ofText origin)
    destinationRegion :=
      selectFilterValue toolArguments ["destination_region"] (.ofText destination) }

/-- The result of `_ranking_filters`. -/
structure RankingFilters where
  rankingMetric : String
  dateRangeDays : ℤ
  shipmentMode : PyValue
  weightClass : PyValue
  region : PyValue
  limit : Option ℤ

/-- `_ranking_filters`. -/
def rankingFilters (prompt : String) (toolArguments : Option (List (String × PyValue))) :
    Except ReadError RankingFilters := do
  let promptText := py.lower prompt
  let limitMatch := (topLimitRe py).search prompt
  let rawRankingMetric := selectFilterValue toolArguments ["ranking_metric"]
    (.str (if Text.contains "on-time" promptText then "on_time_rate" else "shipment_count"))
  let days ← extractDayWindow py prompt "last" 30
  let rawDateRange := selectFilterValue toolArguments ["date_range", "date_range_days"] (.int days)
  let topLimit ← match limitMatch with
    | some [digits] => PyValue.int <$> parseInt py digits
    | _ => pure .none
  let rawLimit := selectFilterValue toolArguments ["limit"] topLimit
  return {
    rankingMetric := ← normalizeRankingMetric rawRankingMetric
    dateRangeDays := ← normalizeDateRangeDays py rawDateRange
    shipmentMode := selectFilterValue toolArguments ["shipment_mode"]
      (.ofText (extractShipmentMode promptText))
    weightClass := selectFilterValue toolArguments ["weight_class"]
      (.ofText (extractWeightClass promptText))
    region := selectFilterValue toolArguments ["region"] (.ofText (extractRegion promptText))
    limit := ← match rawLimit with
      | .none => pure none
      | rawLimit => some <$> normalizeLimit py rawLimit }

/-- The result of `_exception_filters`. -/
structure ExceptionFilters where
  exceptionType : String
  shipmentState : Option String
  insuranceExpiryWindowDays : Option ℤ

/-- `_exception_filters`. -/
def exceptionFilters (prompt : String) : Except ReadError ExceptionFilters := do
  let promptText := py.lower prompt
  let insurance := Text.contains "insurance" promptText
  return {
    exceptionType := if insurance then "insurance_expiring" else "delay"
    shipmentState := if Text.contains "in-transit" promptText then some "in_transit" else none
    insuranceExpiryWindowDays :=
      ← if insurance then some <$> extractDayWindow py prompt "next" 30 else pure none }

/-! ### Responses -/

/-- A read result. -/
def readResult (toolName summary : String) (components : List Json) : Json :=
  .obj [("tool_name", .str toolName), ("summary", .str summary), ("components", .arr components)]

/-- `_empty_read_result`. -/
def emptyReadResult (toolName summary : String) : Json :=
  readResult toolName summary
    [.obj
      [("component_id", .str "msg-empty-read"),
       ("component_type", .str "message_block"),
       ("body", .str summary),
       ("tone", .str "informational")]]

/-- A column of a table. -/
def column (key label dataType : String) : Json :=
  .obj [("key", .str key), ("label", .str label), ("data_type", .str dataType)]

/-- A metric of a card. -/
def metricOf (label : String) (value : ℚ) (unit : Option String) : Json :=
  .obj [("label", .str label), ("value", .num value), ("unit", .strOrNull unit)]

variable (host : Host) (db : Database) (officeId : String) (call : ReadCall)

/-- `_shipment_metrics_response`; `repr` of a float is its text. -/
def shipmentMetricsResponse : Except ReadError Json := do
  let filters ← metricsFilters host.py call.prompt call.toolArguments
  let shipments ← db.shipmentsForMetrics host officeId filters.dateRangeDays filters.shipmentMode
    filters.originRegion filters.destinationRegion
  if shipments.isEmpty then
    return emptyReadResult "shipment_metrics_lookup"
      "No Memphis shipment metrics matched the current scope."
  let avgTransitDays := host.py.roundedMean (shipments.map ShipmentRow.transitHours) 24
  let loads := metricOf "Loads" shipments.length none
  let average := metricOf "Average transit time" avgTransitDays (some "days")
  let card (componentId title : String) (metrics : List Json) : Json :=
    .obj
      [("component_id", .str componentId),
       ("component_type", .str "metric_card"),
       ("title", .str title),
       ("metrics", .arr metrics)]
  if filters.metric = "shipment_count" then
    return readResult "shipment_metrics_lookup"
      (toString shipments.length ++ " Memphis shipment(s) matched the current scope.")
      [card "metric-shipment-count" "Shipment count" [loads, average]]
  else
    return readResult "shipment_metrics_lookup"
      ("Average transit time is " ++ host.py.repr (.float avgTransitDays) ++ " days across " ++
        toString shipments.length ++ " Memphis shipment(s).")
      [card "metric-transit-time" "Transit metrics" [average, loads]]

/-- The response for the rows of a ranking. -/
def rankingResult (rankingMetric : String) : List RankingRow → Json
  | [] => emptyReadResult "carrier_ranking_lookup"
      "No Memphis carrier rankings matched the current scope."
  | top :: rest =>
    readResult "carrier_ranking_lookup"
      (if rankingMetric = "shipment_count" then
        "Top Memphis carrier is " ++ top.carrierName ++ " with " ++ toString top.shipmentCount ++
          " load(s)."
      else
        "Top Memphis carrier is " ++ top.carrierName ++ " at " ++
          host.py.repr (.float top.onTimeRate) ++ "% on-time.")
      [.obj
        [("component_id", .str "table-carrier-rankings"),
         ("component_type", .str "table"),
         ("title", .str "Carrier rankings"),
         ("columns", .arr
           [column "carrier_name" "Carrier" "string",
            column "on_time_rate" "On time %" "number",
            column "shipment_count" "Loads" "number"]),
         ("rows", .arr ((top :: rest).map fun row =>
           .arr [.str row.carrierName, .num row.onTimeRate, .num row.shipmentCount]))]]

/-- `_carrier_ranking_response`. -/
def carrierRankingResponse : Except ReadError Json := do
  let filters ← rankingFilters host.py call.prompt call.toolArguments
  let rows ← db.carrierRankings host officeId filters.rankingMetric filters.dateRangeDays
    filters.shipmentMode filters.weightClass filters.region filters.limit
  return rankingResult host filters.rankingMetric rows

/-- The response for the shipments of an exception view, with the events of a shipment. -/
def exceptionResult (events : String → List EventRow) : List (ShipmentRow × CarrierRow) → Json
  | [] => emptyReadResult "shipment_exception_lookup"
      "No Memphis shipment exceptions matched the current scope."
  | primary :: rest =>
    readResult "shipment_exception_lookup"
      ("Shipment exceptions found for " ++ toString (rest.length + 1) ++ " Memphis shipment(s).")
      [.obj
        [("component_id", .str "table-shipment-exceptions"),
         ("component_type", .str "table"),
         ("title", .str "Shipment exceptions"),
         ("columns", .arr
           [column "shipment_id" "Shipment" "string",
            column "exception_type" "Exception" "string",
            column "carrier_name" "Carrier" "string",
            column "eta_at" "ETA" "string"]),
         ("rows", .arr ((primary :: rest).map fun (s, c) =>
           .arr [.str s.shipmentId, .strOrNull s.exceptionType, .str c.carrierName,
             .str s.etaAt]))],
       .obj
        [("component_id", .str "timeline-shipment-events"),
         ("component_type", .str "timeline"),
         ("title", .str "Shipment timeline"),
         ("events", .arr ((events primary.1.shipmentId).map fun event =>
           .obj
             [("label", .str event.eventType),
              ("timestamp", .str event.eventAt),
              ("state", .str "active")]))]]

/-- `_shipment_exception_response`. -/
def shipmentExceptionResponse : Except ReadError Json := do
  let filters ← exceptionFilters host.py call.prompt
  let resourceId := call.activeResource.map fun fields =>
    ((fields.lookup "resource_id").getD .none).toText host.py
  let shipments ← db.shipmentsForExceptionView host officeId filters.exceptionType
    filters.shipmentState filters.insuranceExpiryWindowDays none resourceId
  return exceptionResult (db.shipmentEvents host officeId) shipments

/-- `execute_allowlisted_read` with the permission of an office. -/
def executeAllowlistedRead : Except ReadError Json :=
  let toolName := call.selectedToolName host.py
  if toolName = "shipment_metrics_lookup" then shipmentMetricsResponse host db officeId call
  else if toolName = "carrier_ranking_lookup" then carrierRankingResponse host db officeId call
  else if toolName = "shipment_exception_lookup" then
    shipmentExceptionResponse host db officeId call
  else .error (.valueError ("Unsupported read tool: " ++ toolName))

end Meridian.Tools
