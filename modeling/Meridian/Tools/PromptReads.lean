import Meridian.Tools.Noninterference
import Meridian.Foundations.LoadedJson

/-!
# Reads of a prompt

`execute_allowlisted_read` as the chat route calls it, without a tool name and tool arguments. The
numbers of a prompt go through `int`, the bounds of `_coerce_bounded_int` and the calendar; only the
window of an insurance view has no bound.

## Main definitions

* `Meridian.Tools.chatRead`: the call of the chat route.
* `Meridian.Tools.Timestamped`: a database whose shipments have ISO timestamps.
* `Meridian.Tools.PromptHandled`: the condition on the prompt and the reference time.

## Main results

* `Meridian.Tools.read_returns_iff`: a read returns a read result exactly if the condition holds.
* `Meridian.Tools.insurance_window_overflows`: a prompt that ends in an `OverflowError`.
-/

namespace Meridian.Tools

open Foundations Db

/-- The call of `execute_read_path`. -/
def chatRead (prompt : String) (activeResource : Option (List (String × PyValue))) : ReadCall :=
  ⟨prompt, activeResource, none, none⟩

/-- The read returns a read result. -/
def ReturnsReadResult (read : Except ReadError Json) : Prop :=
  ∃ toolName summary components, read = .ok (readResult toolName summary components)

/-- Every `created_at` is an ISO timestamp. -/
def Timestamped (db : Database) : Prop :=
  ∀ s ∈ db.shipments.rows, ∃ time,
    Datetime.fromisoformat (Text.replace s.createdAt "Z" "+00:00") = some time

/-- The reference time: that of the latest shipment of the office, or else the present. -/
inductive ReferenceTime (host : Host) (db : Database) (officeId : String) : Datetime → Prop
  | present (hnone : ((db.shipmentsOf officeId).map ShipmentRow.createdAt).max? = none) :
      ReferenceTime host db officeId host.now.1
  | latest (text : String) (time : Datetime)
      (hmax : ((db.shipmentsOf officeId).map ShipmentRow.createdAt).max? = some text)
      (htime : Datetime.fromisoformat (Text.replace text "Z" "+00:00") = some time) :
      ReferenceTime host db officeId time

/-! ### The condition -/

/-- The digits of the first window that the prompt names, if it has the direction. -/
def windowDigits (py : Python) (prompt direction : String) : Option String :=
  match (dayWindowRe py).search prompt with
  | some [word, digits] => if py.lower word = direction then some digits else none
  | _ => none

/-- The digits of the limit that the prompt names. -/
def limitDigits (py : Python) (prompt : String) : Option String :=
  match (topLimitRe py).search prompt with
  | some [digits] => some digits
  | _ => none

/-- The prompt asks for a window of so many days: its digits are a number, or it names none. -/
def AsksWindow (py : Python) (prompt direction : String) (days : ℤ) : Prop :=
  match windowDigits py prompt direction with
  | none => days = 30
  | some digits => py.int digits = some days

/-- The window before the reference time has at least a day and starts in the calendar. -/
def PastHandled (host : Host) (db : Database) (officeId prompt : String) : Prop :=
  ∃ days time, AsksWindow host.py prompt "last" days ∧ ReferenceTime host db officeId time ∧
    1 ≤ days ∧ min days maxReadDateRangeDays < time.ordinal

/-- The limit is a positive number, if there is one. -/
def LimitHandled (py : Python) (prompt : String) : Prop :=
  ∀ digits, limitDigits py prompt = some digits → ∃ limit, py.int digits = some limit ∧ 1 ≤ limit

/-- The window after the reference time ends in the calendar. -/
def FutureHandled (host : Host) (db : Database) (officeId prompt : String) : Prop :=
  ∃ days time, AsksWindow host.py prompt "next" days ∧ ReferenceTime host db officeId time ∧
    1 ≤ time.ordinal + days ∧ time.ordinal + days ≤ maxOrdinal

/-- The numbers of the prompt can be used by the tool that it selects. -/
structure PromptHandled (host : Host) (db : Database) (officeId prompt : String)
    (activeResource : Option (List (String × PyValue))) : Prop where
  metrics : classifyReadTool host.py prompt activeResource = "shipment_metrics_lookup" →
    PastHandled host db officeId prompt
  ranking : classifyReadTool host.py prompt activeResource = "carrier_ranking_lookup" →
    PastHandled host db officeId prompt ∧ LimitHandled host.py prompt
  exceptions : classifyReadTool host.py prompt activeResource = "shipment_exception_lookup" →
    Text.contains "insurance" (host.py.lower prompt) = true →
      FutureHandled host db officeId prompt

/-! ### Numbers of a prompt -/

section Numbers

variable {py : Python} {prompt direction : String} {days n : ℤ}

theorem parseInt_eq_ok {digits : String} : parseInt py digits = .ok n ↔ py.int digits = some n := by
  unfold parseInt
  cases py.int digits with
  | none => simp
  | some m => simp

theorem extractDayWindow_eq_ok :
    extractDayWindow py prompt direction 30 = .ok days ↔ AsksWindow py prompt direction days := by
  unfold extractDayWindow AsksWindow windowDigits
  have hdefault : (Except.ok 30 : Except ReadError ℤ) = .ok days ↔ days = 30 := by
    rw [Except.ok.injEq]
    exact eq_comm
  -- The pattern has two groups.
  rcases (dayWindowRe py).search prompt with _ | _ | ⟨word, _ | ⟨digits, _ | ⟨extra, groups⟩⟩⟩
  · exact hdefault
  · exact hdefault
  · exact hdefault
  · by_cases hword : py.lower word = direction
    · simp only [if_pos hword]
      exact parseInt_eq_ok
    · simp only [if_neg hword]
      exact hdefault
  · exact hdefault

/-- What `_coerce_bounded_int` does to an integer. -/
theorem coerceBoundedInt_int {fieldName : String} {maximum : ℤ} :
    coerceBoundedInt py (.int n) fieldName maximum = .ok days ↔ 1 ≤ n ∧ days = min n maximum := by
  simp only [coerceBoundedInt, candidateOf, PyValue.toInt]
  split_ifs with h
  · simp only [false_iff, not_and]
    omega
  · simp only [Except.ok.injEq]
    omega

end Numbers

/-! ### The reference time -/

section Time

variable {host : Host} {db : Database} {officeId : String} {days : ℤ} {time time' : Datetime}

theorem ReferenceTime.unique (h : ReferenceTime host db officeId time)
    (h' : ReferenceTime host db officeId time') : time = time' := by
  cases h with
  | present hnone =>
    cases h' with
    | present => rfl
    | latest text _ hmax => exact absurd (hnone.symm.trans hmax) nofun
  | latest text _ hmax htime =>
    cases h' with
    | present hnone => exact absurd (hnone.symm.trans hmax) nofun
    | latest text' _ hmax' htime' =>
      obtain rfl := Option.some.inj (hmax.symm.trans hmax')
      exact Option.some.inj (htime.symm.trans htime')

/-- With ISO timestamps there is a reference time. -/
theorem exists_referenceTime (host : Host) (officeId : String) (h : Timestamped db) :
    ∃ time, ReferenceTime host db officeId time ∧
      db.referenceTimestamp host officeId = .ok time := by
  unfold Database.referenceTimestamp
  cases hmax : ((db.shipmentsOf officeId).map ShipmentRow.createdAt).max? with
  | none => exact ⟨host.now.1, .present hmax, rfl⟩
  | some text =>
    obtain ⟨s, hs, rfl⟩ := List.mem_map.mp (List.max?_mem hmax)
    obtain ⟨time, htime⟩ := h s (List.mem_of_mem_filter hs)
    refine ⟨time, .latest _ time hmax htime, ?_⟩
    have hempty : s.createdAt ≠ "" := by
      intro hempty
      have hnone : Datetime.fromisoformat (Text.replace "" "Z" "+00:00") = none := rfl
      rw [hempty, hnone] at htime
      cases htime
    unfold Database.parseTimestamp
    split
    · next hnone => cases hnone
    · next hnone => exact absurd (Option.some.inj hnone) hempty
    · next text hsome =>
      obtain rfl := Option.some.inj hsome
      rw [htime]

/-- A window back from the reference time has a start exactly if that lies in the calendar. -/
theorem returns_windowCutoff (htime : db.referenceTimestamp host officeId = .ok time)
    (hdays : 1 ≤ days) :
    Returns (db.windowCutoff host officeId days) ↔ days < time.ordinal := by
  have hle := time.ordinal_le
  unfold Database.windowCutoff Database.cutoff Datetime.mk?
  rw [htime, ok_bind]
  by_cases hlt : days < time.ordinal
  · have hin : (1 ≤ (time.ordinal - days).toNat ∧ (time.ordinal - days).toNat ≤ maxOrdinal) ∧
        time.micros < microsPerDay ∧ ∀ o ∈ time.utcoffset, o.natAbs < microsPerDay :=
      ⟨by omega, time.micros_lt, time.utcoffset_lt⟩
    rw [dif_pos hin]
    exact iff_of_true ⟨_, rfl⟩ hlt
  · have hout : ¬ ((1 ≤ (time.ordinal - days).toNat ∧ (time.ordinal - days).toNat ≤ maxOrdinal) ∧
        time.micros < microsPerDay ∧ ∀ o ∈ time.utcoffset, o.natAbs < microsPerDay) := by
      omega
    rw [dif_neg hout]
    exact iff_of_false (by simp) hlt

/-- A window ahead of the reference time has an end exactly if that lies in the calendar. -/
theorem returns_windowEnd :
    Returns (Database.windowEnd time days) ↔
      1 ≤ time.ordinal + days ∧ time.ordinal + days ≤ maxOrdinal := by
  unfold Database.windowEnd
  simp only []
  split_ifs with h
  · exact iff_of_true ⟨_, rfl⟩ (by omega)
  · exact iff_of_false (by simp) (by omega)

end Time

/-! ### The three tools -/

section Tools

variable {host : Host} {db : Database} {officeId prompt : String}
  {activeResource : Option (List (String × PyValue))} {time : Datetime}

theorem returns_filterText (sql : Sqlite) (filter : Option String) :
    Returns (filterText sql (.ofText filter)) := by
  cases filter with
  | none => exact ⟨none, rfl⟩
  | some text => exact ⟨some text, rfl⟩

/-- A window back from the reference time of as many days as the prompt asks for. -/
theorem pastHandled_iff (htime : ReferenceTime host db officeId time)
    (hread : db.referenceTimestamp host officeId = .ok time) :
    PastHandled host db officeId prompt ↔
      ∃ days, extractDayWindow host.py prompt "last" 30 = .ok days ∧
        ∃ bounded, normalizeDateRangeDays host.py (.int days) = .ok bounded ∧
          Returns (db.windowCutoff host officeId bounded) := by
  constructor
  · rintro ⟨days, time', hdays, htime', hpos, hlt⟩
    obtain rfl := htime.unique htime'
    refine ⟨days, extractDayWindow_eq_ok.mpr hdays, _, coerceBoundedInt_int.mpr ⟨hpos, rfl⟩, ?_⟩
    exact (returns_windowCutoff hread (by simp [maxReadDateRangeDays, hpos])).mpr hlt
  · rintro ⟨days, hdays, bounded, hbounded, hcutoff⟩
    obtain ⟨hpos, rfl⟩ := coerceBoundedInt_int.mp hbounded
    refine ⟨days, time, extractDayWindow_eq_ok.mp hdays, htime, hpos, ?_⟩
    exact (returns_windowCutoff hread (by simp [maxReadDateRangeDays, hpos])).mp hcutoff

theorem returns_shipmentsForMetrics {days : ℤ} (mode origin destination : Option String) :
    Returns (db.shipmentsForMetrics host officeId days (.ofText mode) (.ofText origin)
        (.ofText destination)) ↔
      ∃ bounded, normalizeDateRangeDays host.py (.int days) = .ok bounded ∧
        Returns (db.windowCutoff host officeId bounded) := by
  obtain ⟨modeText, hmode⟩ := returns_filterText host.sql mode
  obtain ⟨originText, horigin⟩ := returns_filterText host.sql origin
  obtain ⟨destinationText, hdestination⟩ := returns_filterText host.sql destination
  simp only [Database.shipmentsForMetrics, hmode, horigin, hdestination, ok_bind, returns_bind,
    returns_pure, and_true]
  rfl

/-! ### Read results -/

theorem returnsReadResult_bind {α : Type} {x : Except ReadError α} {f : α → Except ReadError Json} :
    ReturnsReadResult (x >>= f) ↔ ∃ a, x = .ok a ∧ ReturnsReadResult (f a) := by
  unfold ReturnsReadResult
  simp only [bind_eq_ok]
  constructor
  · rintro ⟨toolName, summary, components, a, hx, hf⟩
    exact ⟨a, hx, toolName, summary, components, hf⟩
  · rintro ⟨a, hx, toolName, summary, components, hf⟩
    exact ⟨toolName, summary, components, a, hx, hf⟩

theorem returnsReadResult_readResult (toolName summary : String) (components : List Json) :
    ReturnsReadResult (pure (readResult toolName summary components)) :=
  ⟨toolName, summary, components, rfl⟩

theorem returnsReadResult_rankingResult (rankingMetric : String) (rows : List RankingRow) :
    ReturnsReadResult (pure (rankingResult host rankingMetric rows)) := by
  cases rows with
  | nil => exact returnsReadResult_readResult _ _ _
  | cons top rest => exact returnsReadResult_readResult _ _ _

theorem returnsReadResult_exceptionResult (events : String → List EventRow)
    (rows : List (ShipmentRow × CarrierRow)) :
    ReturnsReadResult (pure (exceptionResult events rows)) := by
  cases rows with
  | nil => exact returnsReadResult_readResult _ _ _
  | cons primary rest => exact returnsReadResult_readResult _ _ _

/-- A bounded number of days is within the bounds. -/
theorem normalizeDateRangeDays_bounded {py : Python} {days bounded : ℤ}
    (h : normalizeDateRangeDays py (.int days) = .ok bounded) :
    normalizeDateRangeDays py (.int bounded) = .ok bounded := by
  obtain ⟨hpos, rfl⟩ := coerceBoundedInt_int.mp h
  have hmaximum : 1 ≤ maxReadDateRangeDays := by decide
  exact coerceBoundedInt_int.mpr ⟨by omega, by omega⟩

theorem returnsReadResult_shipmentMetricsResponse (htime : ReferenceTime host db officeId time)
    (hread : db.referenceTimestamp host officeId = .ok time) :
    ReturnsReadResult (shipmentMetricsResponse host db officeId (chatRead prompt activeResource)) ↔
      PastHandled host db officeId prompt := by
  unfold shipmentMetricsResponse metricsFilters
  simp only [pastHandled_iff htime hread, chatRead, selectFilterValue, returnsReadResult_bind,
    bind_eq_ok]
  constructor
  · rintro ⟨filters, ⟨days, hdays, metric, -, bounded, hbounded, ⟨⟩⟩, rows, hrows, -⟩
    obtain ⟨bounded', hbounded', hcutoff⟩ := (returns_shipmentsForMetrics _ _ _).mp ⟨rows, hrows⟩
    rw [normalizeDateRangeDays_bounded hbounded] at hbounded'
    obtain rfl := Except.ok.inj hbounded'
    exact ⟨days, hdays, bounded, hbounded, hcutoff⟩
  · rintro ⟨days, hdays, bounded, hbounded, hcutoff⟩
    have hmetric : ∃ metric, normalizeMetric (.str
        (if Text.contains "transit" (host.py.lower prompt) = true then "average_transit_time"
          else "shipment_count")) = .ok metric := by
      split_ifs
      · exact ⟨_, rfl⟩
      · exact ⟨_, rfl⟩
    obtain ⟨metric, hmetric⟩ := hmetric
    obtain ⟨rows, hrows⟩ := (returns_shipmentsForMetrics
      (extractShipmentMode (host.py.lower prompt))
      (extractLane host.py prompt).1 (extractLane host.py prompt).2).mpr
      ⟨bounded, normalizeDateRangeDays_bounded hbounded, hcutoff⟩
    refine ⟨_, ⟨days, hdays, metric, hmetric, bounded, hbounded, rfl⟩, rows, hrows, ?_⟩
    split_ifs
    · exact returnsReadResult_readResult _ _ _
    · exact returnsReadResult_readResult _ _ _
    · exact returnsReadResult_readResult _ _ _

theorem returns_carrierRankings {metric : String} {days : ℤ} {limit : Option ℤ}
    (hmetric : metric ∈ allowedRankingMetrics) (hlimit : ∀ n, limit = some n → 1 ≤ n)
    (mode weightClass region : Option String) :
    Returns (db.carrierRankings host officeId metric days (.ofText mode) (.ofText weightClass)
        (.ofText region) limit) ↔
      ∃ bounded, normalizeDateRangeDays host.py (.int days) = .ok bounded ∧
        Returns (db.windowCutoff host officeId bounded) := by
  obtain ⟨modeText, hmode⟩ := returns_filterText host.sql mode
  obtain ⟨weightText, hweight⟩ := returns_filterText host.sql weightClass
  obtain ⟨regionText, hregion⟩ := returns_filterText host.sql region
  have hmetric : normalizeRankingMetric (.str metric) = .ok metric := if_pos hmetric
  rw [Database.carrierRankings, returns_bind_of_forall fun _ => returns_pure _]
  cases limit with
  | none =>
    simp only [Database.rankingQuery, hmetric, hmode, hweight, hregion, ok_bind, pure_bind,
      returns_bind, returns_pure, and_true]
    rfl
  | some n =>
    have hn : some <$> normalizeLimit host.py (.int n) = .ok (some (min n maxReadLimit)) := by
      rw [normalizeLimit, coerceBoundedInt_int.mpr ⟨hlimit n rfl, rfl⟩]
      rfl
    simp only [Database.rankingQuery, hmetric, hmode, hweight, hregion, hn, ok_bind, returns_bind,
      returns_pure, and_true]
    rfl

/-- What a prompt's limit becomes. -/
def AsksLimit (py : Python) (prompt : String) (limit : Option ℤ) : Prop :=
  match limitDigits py prompt with
  | none => limit = none
  | some digits => ∃ n, py.int digits = some n ∧ 1 ≤ n ∧ limit = some (min n maxReadLimit)

theorem limitHandled_iff {py : Python} :
    LimitHandled py prompt ↔ ∃ limit, AsksLimit py prompt limit := by
  unfold LimitHandled AsksLimit
  cases limitDigits py prompt with
  | none => simp
  | some digits => simp

theorem rankingFilters_eq_ok {py : Python} {filters : RankingFilters} :
    rankingFilters py prompt none = .ok filters ↔
      ∃ days bounded limit, extractDayWindow py prompt "last" 30 = .ok days ∧
        normalizeDateRangeDays py (.int days) = .ok bounded ∧ AsksLimit py prompt limit ∧
        filters =
          { rankingMetric :=
              if Text.contains "on-time" (py.lower prompt) then "on_time_rate" else "shipment_count"
            dateRangeDays := bounded
            shipmentMode := .ofText (extractShipmentMode (py.lower prompt))
            weightClass := .ofText (extractWeightClass (py.lower prompt))
            region := .ofText (extractRegion (py.lower prompt))
            limit := limit } := by
  have hmetric : normalizeRankingMetric (.str
      (if Text.contains "on-time" (py.lower prompt) = true then "on_time_rate"
        else "shipment_count")) = .ok
      (if Text.contains "on-time" (py.lower prompt) = true then "on_time_rate"
        else "shipment_count") := by
    split_ifs
    · rfl
    · rfl
  unfold rankingFilters AsksLimit limitDigits
  simp only [selectFilterValue, hmetric, ok_bind]
  generalize (topLimitRe py).search prompt = found
  split
  · next digits =>
    simp only [bind_eq_ok, pure_bind]
    constructor
    · rintro ⟨days, hdays, topLimit, htop, bounded, hbounded, hfilters⟩
      cases hint : py.int digits with
      | none =>
        rw [parseInt, hint] at htop
        cases htop
      | some n =>
        rw [parseInt, hint] at htop
        cases htop
        obtain ⟨limit, hlimit, ⟨⟩⟩ := bind_eq_ok.mp hfilters
        cases hnormal : normalizeLimit py (.int n) with
        | error =>
          rw [hnormal] at hlimit
          cases hlimit
        | ok m =>
          rw [hnormal] at hlimit
          cases hlimit
          obtain ⟨hpos, rfl⟩ := coerceBoundedInt_int.mp hnormal
          exact ⟨days, bounded, _, hdays, hbounded, ⟨n, rfl, hpos, rfl⟩, rfl⟩
    · rintro ⟨days, bounded, limit, hdays, hbounded, ⟨n, hint, hpos, rfl⟩, rfl⟩
      have htop : PyValue.int <$> parseInt py digits = .ok (.int n) := by
        rw [parseInt, hint]
        rfl
      refine ⟨days, hdays, .int n, htop, bounded, hbounded, ?_⟩
      simp only [normalizeLimit, coerceBoundedInt_int.mpr ⟨hpos, rfl⟩]
      rfl
  · simp only [bind_eq_ok, pure_bind]
    constructor
    · rintro ⟨days, hdays, bounded, hbounded, ⟨⟩⟩
      exact ⟨days, bounded, none, hdays, hbounded, rfl, rfl⟩
    · rintro ⟨days, bounded, limit, hdays, hbounded, rfl, rfl⟩
      exact ⟨days, hdays, bounded, hbounded, rfl⟩

theorem returnsReadResult_carrierRankingResponse (htime : ReferenceTime host db officeId time)
    (hread : db.referenceTimestamp host officeId = .ok time) :
    ReturnsReadResult
        (carrierRankingResponse host db officeId (chatRead prompt activeResource)) ↔
      PastHandled host db officeId prompt ∧ LimitHandled host.py prompt := by
  have hmetric : (if Text.contains "on-time" (host.py.lower prompt) = true then "on_time_rate"
      else "shipment_count") ∈ allowedRankingMetrics := by
    split_ifs
    · exact List.mem_cons_self
    · exact List.mem_cons_of_mem _ List.mem_cons_self
  have hpositive {limit : Option ℤ} (h : AsksLimit host.py prompt limit) (n : ℤ)
      (hn : limit = some n) : 1 ≤ n := by
    have hmaximum : 1 ≤ maxReadLimit := by decide
    unfold AsksLimit at h
    split at h
    · rw [h] at hn
      cases hn
    · obtain ⟨m, -, hpos, hlimit⟩ := h
      obtain rfl := Option.some.inj (hlimit.symm.trans hn)
      omega
  unfold carrierRankingResponse
  simp only [pastHandled_iff htime hread, limitHandled_iff, chatRead, returnsReadResult_bind,
    rankingFilters_eq_ok, returnsReadResult_rankingResult, and_true]
  constructor
  · rintro ⟨filters, ⟨days, bounded, limit, hdays, hbounded, hlimit, rfl⟩, rows, hrows⟩
    obtain ⟨bounded', hbounded', hcutoff⟩ :=
      (returns_carrierRankings hmetric (hpositive hlimit) _ _ _).mp ⟨rows, hrows⟩
    rw [normalizeDateRangeDays_bounded hbounded] at hbounded'
    obtain rfl := Except.ok.inj hbounded'
    exact ⟨⟨days, hdays, bounded, hbounded, hcutoff⟩, limit, hlimit⟩
  · rintro ⟨⟨days, hdays, bounded, hbounded, hcutoff⟩, limit, hlimit⟩
    exact ⟨_, ⟨days, bounded, limit, hdays, hbounded, hlimit, rfl⟩,
      (returns_carrierRankings hmetric (hpositive hlimit) _ _ _).mpr
        ⟨bounded, normalizeDateRangeDays_bounded hbounded, hcutoff⟩⟩

theorem exceptionFilters_eq_ok {py : Python} {filters : ExceptionFilters} :
    exceptionFilters py prompt = .ok filters ↔
      ∃ window : Option ℤ, filters =
          { exceptionType :=
              if Text.contains "insurance" (py.lower prompt) then "insurance_expiring" else "delay"
            shipmentState :=
              if Text.contains "in-transit" (py.lower prompt) then some "in_transit" else none
            insuranceExpiryWindowDays := window } ∧
        if Text.contains "insurance" (py.lower prompt) = true then
          ∃ days, AsksWindow py prompt "next" days ∧ window = some days
        else window = none := by
  unfold exceptionFilters
  by_cases hinsurance : Text.contains "insurance" (py.lower prompt) = true
  · simp only [hinsurance, if_true, bind_eq_ok, ← extractDayWindow_eq_ok]
    constructor
    · rintro ⟨window, hwindow, ⟨⟩⟩
      cases hdays : extractDayWindow py prompt "next" 30 with
      | error =>
        rw [hdays] at hwindow
        cases hwindow
      | ok days =>
        rw [hdays] at hwindow
        cases hwindow
        exact ⟨some days, rfl, days, rfl, rfl⟩
    · rintro ⟨window, rfl, days, hdays, rfl⟩
      rw [hdays]
      exact ⟨some days, rfl, rfl⟩
  · simp only [hinsurance, if_false, Bool.false_eq_true, pure_bind]
    constructor
    · rintro ⟨⟩
      exact ⟨none, rfl, rfl⟩
    · rintro ⟨window, rfl, rfl⟩
      rfl

theorem returns_insuranceView {state resourceId : Option String} {days : ℤ} :
    Returns (db.shipmentsForExceptionView host officeId "insurance_expiring" state (some days) none
        resourceId) ↔
      ∃ time, db.referenceTimestamp host officeId = .ok time ∧
        Returns (Database.windowEnd time days) := by
  unfold Database.shipmentsForExceptionView
  simp only [returns_bind, pure_bind, returns_pure, and_true]
  rfl

theorem returns_delayView {state resourceId : Option String} :
    Returns (db.shipmentsForExceptionView host officeId "delay" state none none resourceId) ↔
      Returns (db.referenceTimestamp host officeId) := by
  unfold Database.shipmentsForExceptionView
  simp only [returns_bind, pure_bind]
  constructor
  · rintro ⟨time, htime, -⟩
    exact ⟨time, htime⟩
  · rintro ⟨time, htime⟩
    exact ⟨time, htime, _, rfl⟩

theorem returnsReadResult_shipmentExceptionResponse (htime : ReferenceTime host db officeId time)
    (hread : db.referenceTimestamp host officeId = .ok time) :
    ReturnsReadResult
        (shipmentExceptionResponse host db officeId (chatRead prompt activeResource)) ↔
      (Text.contains "insurance" (host.py.lower prompt) = true →
        FutureHandled host db officeId prompt) := by
  unfold shipmentExceptionResponse
  simp only [chatRead, returnsReadResult_bind, exceptionFilters_eq_ok,
    returnsReadResult_exceptionResult, and_true]
  by_cases hinsurance : Text.contains "insurance" (host.py.lower prompt) = true
  · simp only [hinsurance, if_true, forall_const]
    constructor
    · rintro ⟨filters, ⟨window, rfl, days, hdays, rfl⟩, rows, hrows⟩
      obtain ⟨time', hread', hend⟩ := returns_insuranceView.mp ⟨rows, hrows⟩
      obtain rfl := Except.ok.inj (hread.symm.trans hread')
      exact ⟨days, time, hdays, htime, returns_windowEnd.mp hend⟩
    · rintro ⟨days, time', hdays, htime', hend⟩
      obtain rfl := htime.unique htime'
      exact ⟨_, ⟨some days, rfl, days, hdays, rfl⟩,
        returns_insuranceView.mpr ⟨time, hread, returns_windowEnd.mpr hend⟩⟩
  · simp only [hinsurance, if_false, Bool.false_eq_true, forall_false, iff_true]
    exact ⟨_, ⟨none, rfl, rfl⟩, returns_delayView.mpr ⟨time, hread⟩⟩

end Tools

variable {host : Host} {db : Database} {officeId prompt : String}
  {activeResource : Option (List (String × PyValue))}

theorem classifyReadTool_cases (py : Python) :
    classifyReadTool py prompt activeResource = "shipment_metrics_lookup" ∨
      classifyReadTool py prompt activeResource = "carrier_ranking_lookup" ∨
      classifyReadTool py prompt activeResource = "shipment_exception_lookup" := by
  simp only [classifyReadTool]
  split_ifs
  · exact .inr (.inr rfl)
  · exact .inr (.inl rfl)
  · exact .inr (.inr rfl)
  · exact .inl rfl

/-- **When a read of a prompt returns.** On a database with ISO timestamps a read without tool
arguments returns a read result exactly if the numbers of the prompt can be used by the tool that
the prompt selects: they are numbers for `int`, a window into the past and a limit are positive, and
the calendar has the start of the bounded window into the past or the end of the unbounded one into
the future. -/
theorem read_returns_iff (h : Timestamped db) :
    ReturnsReadResult
        (executeAllowlistedRead host db officeId (chatRead prompt activeResource)) ↔
      PromptHandled host db officeId prompt activeResource := by
  obtain ⟨time, htime, hread⟩ := exists_referenceTime host officeId h
  have hselected : (chatRead prompt activeResource).selectedToolName host.py =
      classifyReadTool host.py prompt activeResource := rfl
  simp only [executeAllowlistedRead, hselected]
  rcases classifyReadTool_cases host.py with htool | htool | htool
  · rw [htool, if_pos rfl, returnsReadResult_shipmentMetricsResponse htime hread]
    constructor
    · intro hpast
      exact ⟨fun _ => hpast, fun hother => absurd (htool.symm.trans hother) (by decide),
        fun hother => absurd (htool.symm.trans hother) (by decide)⟩
    · exact fun hhandled => hhandled.metrics htool
  · rw [htool, if_neg (by decide), if_pos rfl,
      returnsReadResult_carrierRankingResponse htime hread]
    constructor
    · intro hpast
      exact ⟨fun hother => absurd (htool.symm.trans hother) (by decide), fun _ => hpast,
        fun hother => absurd (htool.symm.trans hother) (by decide)⟩
    · exact fun hhandled => hhandled.ranking htool
  · rw [htool, if_neg (by decide), if_neg (by decide), if_pos rfl,
      returnsReadResult_shipmentExceptionResponse htime hread]
    constructor
    · intro hfuture
      exact ⟨fun hother => absurd (htool.symm.trans hother) (by decide),
        fun hother => absurd (htool.symm.trans hother) (by decide), fun _ => hfuture⟩
    · exact fun hhandled => hhandled.exceptions htool

/-! ### Prompts to Memphis -/

/-- The functions of the host with `int` on ASCII digits. -/
def digitHost : Host :=
  { asciiHost with
    py :=
      { asciiHost.py with
        int := fun text =>
          if text.toList.all Char.isDigit then some (Nat.ofDigitChars 10 text.toList 0)
          else none } }

/-- The exception of a read that raises. -/
def readError (read : Except ReadError Json) : Option ReadError :=
  match read with
  | .error e => some e
  | .ok _ => none

theorem eq_error_of_readError {read : Except ReadError Json} {e : ReadError}
    (h : readError read = some e) : read = .error e := by
  cases read with
  | error e' => exact congrArg Except.error (Option.some.inj h)
  | ok result => cases h

theorem timestamped_memphisShipment : Timestamped (memphisShipment .empty) := by
  intro s hs
  obtain rfl := List.mem_singleton.mp hs
  exact Option.isSome_iff_exists.mp (by decide +kernel)

/-- A window of thirty days ends in the calendar. -/
theorem read_returns_thirty_days :
    ReturnsReadResult (executeAllowlistedRead digitHost (memphisShipment .empty) "memphis"
      (chatRead "Show insurance expiring in the next 30 days" none)) := by
  have htool : classifyReadTool digitHost.py "Show insurance expiring in the next 30 days" none =
      "shipment_exception_lookup" := by decide +kernel
  have hdays : AsksWindow digitHost.py "Show insurance expiring in the next 30 days" "next" 30 := by
    have hdigits : windowDigits digitHost.py "Show insurance expiring in the next 30 days" "next" =
        some "30" := by decide +kernel
    have hthirty : digitHost.py.int "30" = some 30 := by decide +kernel
    rw [AsksWindow, hdigits]
    exact hthirty
  have hordinal : (Datetime.fromisoformat (Text.replace "2026-03-12T14:00:00Z" "Z" "+00:00")).map
      Datetime.ordinal = some 739687 := by decide +kernel
  obtain ⟨time, htime, hordinal⟩ := Option.map_eq_some_iff.mp hordinal
  have hreference : ReferenceTime digitHost (memphisShipment .empty) "memphis" time :=
    .latest "2026-03-12T14:00:00Z" time rfl htime
  refine (read_returns_iff timestamped_memphisShipment).mpr
    ⟨fun hother => absurd (htool.symm.trans hother) (by decide),
      fun hother => absurd (htool.symm.trans hother) (by decide),
      fun _ _ => ⟨30, time, hdays, hreference, ?_, ?_⟩⟩
  · rw [hordinal]
    decide
  · rw [hordinal]
    decide

/-- **An insurance window overflows.** A prompt with a window of 999999999 days ends in an
`OverflowError`, and one with a window of no days in a `ValueError`. -/
theorem insurance_window_overflows :
    executeAllowlistedRead digitHost (memphisShipment .empty) "memphis"
        (chatRead "Show insurance expiring in the next 999999999 days" none) = .error .overflow ∧
      executeAllowlistedRead digitHost (memphisShipment .empty) "memphis"
        (chatRead "Shipment count over the last 0 days" none) =
          .error (.valueError "date_range must be a positive integer") ∧
      ¬ ReturnsReadResult (executeAllowlistedRead digitHost (memphisShipment .empty) "memphis"
        (chatRead "Show insurance expiring in the next 999999999 days" none)) := by
  have hread : executeAllowlistedRead digitHost (memphisShipment .empty) "memphis"
      (chatRead "Show insurance expiring in the next 999999999 days" none) = .error .overflow :=
    eq_error_of_readError (by decide +kernel)
  refine ⟨hread, eq_error_of_readError (by decide +kernel), ?_⟩
  rintro ⟨toolName, summary, components, hresult⟩
  rw [hread] at hresult
  cases hresult

end Meridian.Tools
