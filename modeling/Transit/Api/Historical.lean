import Transit.Aggregate.Upsert
import Transit.Static.Pages

/-!
# The historical endpoints

`GET /historical` and `GET /historical/range` of the realtime API read the aggregate tables of
migration `002` through D1.  `queryD1Historical` builds the day's statement from the feed kind and
the aggregation: `rt_delays_hourly` or `rt_delays_daily` for trip updates, `rt_positions_hourly`
or `rt_positions_daily` for vehicle positions, and `ORDER BY date`, with `, hour` for the hourly
tables.  For any other feed kind no branch assigns `sql`, so `sql += " ORDER BY date"` prepares the
text `undefined ORDER BY date`: D1 throws on it, the `catch` answers `null`, and the handler
answers `404`.  `handleHistoricalRange` reads `rt_delays_daily` for trip updates and
`rt_positions_daily` for every other kind.

D1 is modelled as for the static API: when a statement is answered, the answer is the table's rows
that pass the `WHERE` clause, in an order that agrees with `ORDER BY`.  A comparison follows
SQLite's order of storage classes; the affinity conversions of the declared column types are left
out, since every parameter these handlers bind has the type of its column.

## Main definitions

* `Op`, `Op.compare` — `=`, `>=` and `<=` between a stored value and a bound parameter.
* `HistSelect`, `HistStatement`, `HistFaithful` — the statements and what D1 answers to them.
* `histStatement`, `queryD1Historical`, `handleHistorical` — the day endpoint.
* `rangeSelect`, `handleHistoricalRange` — the range endpoint.
* `positionsSelect`, `handleGeoJSONHistoricalPositions` — the day's positions as GeoJSON points.
* `histRun` — an executable D1 over a store of tables.

## Main results

* `histStatement_daily` — a day's daily statement is the range statement from that day to itself,
  up to how its `WHERE` clause is written.
* `historical_range_agree` — without an `hour`, the day endpoint and the range from that day to
  itself answer the same rows, up to their order.
* `historicalPositions_geojson` — without an `hour`, or with one `parseInt` reads, the map's
  points of a day are the vehicle positions the day endpoint answers, but for those at a `NULL`
  or `0` coordinate.
-/

namespace Transit

open StaticApi (Param parseInt paramOr filterOn)

/-! ### Comparisons -/

/-- The order SQLite compares values in: numbers by value, then texts by their characters.
`NULL` has no place in it: a comparison with `NULL` is `NULL`, which no `WHERE` clause keeps. -/
abbrev Rank := Lex (ℕ × Lex (ℚ × String))

/-- The place of a stored value in that order. -/
def Value.rank? : Value → Option Rank
  | .null => none
  | .integer i => some (toLex (0, toLex ((i : ℚ), "")))
  | .real x => some (toLex (0, toLex (x, "")))
  | .text s => some (toLex (1, toLex (0, s)))

/-- The place of a bound parameter in that order; `NaN` has none. -/
def StaticApi.Param.rank? : Param → Option Rank
  | .text s => some (toLex (1, toLex (0, s)))
  | .int n => some (toLex (0, toLex ((n : ℚ), "")))
  | .nan => none

/-- An operator of the historical statements. -/
inductive Op where
  | eq
  | ge
  | le
  deriving DecidableEq, Repr

/-- The operator's text in a statement. -/
def Op.text : Op → String
  | .eq => " = "
  | .ge => " >= "
  | .le => " <= "

/-- `value op ?` with `p` bound to the `?`: false when either side has no place in the order. -/
def Op.compare (op : Op) (v : Value) (p : Param) : Bool :=
  match v.rank?, p.rank? with
  | some a, some b =>
    match op with
    | .eq => decide (a = b)
    | .ge => decide (b ≤ a)
    | .le => decide (a ≤ b)
  | _, _ => false

/-- A value equals a parameter exactly when it is at least and at most the parameter. -/
theorem Op.compare_eq (v : Value) (p : Param) :
    Op.eq.compare v p = (Op.ge.compare v p && Op.le.compare v p) := by
  unfold Op.compare
  rcases v.rank? with _ | a <;> rcases p.rank? with _ | b
  case some.some =>
    rw [← Bool.decide_and]
    exact decide_eq_decide.2 (le_antisymm_iff.trans and_comm)
  all_goals rfl

/-! ### Statements and D1 -/

/-- A condition of a `WHERE` clause: a column, an operator, and the value bound to its `?`. -/
abbrev Cond := String × Op × Param

/-- `SELECT * FROM <table> WHERE <conds joined by AND> ORDER BY <order>`. -/
structure HistSelect where
  table : String
  conds : List Cond
  order : List String
  deriving DecidableEq, Repr

/-- The statement's text, as the handlers build it with `+=`. -/
def HistSelect.sql (s : HistSelect) : String :=
  "SELECT * FROM " ++ s.table ++ " WHERE " ++
    " AND ".intercalate (s.conds.map fun c => c.1 ++ c.2.1.text ++ "?") ++
    " ORDER BY " ++ ", ".intercalate s.order

/-- The values `bind(...params)` hands over, one for each `?`. -/
def HistSelect.params (s : HistSelect) : List Param := s.conds.map (·.2.2)

/-- No `NaN` is bound, so that the statement's meaning does not hang on how D1 binds one. -/
def HistSelect.Bound (s : HistSelect) : Prop := Param.nan ∉ s.params

/-- The rows the `WHERE` clause keeps: those that pass every condition. -/
def HistSelect.keep (s : HistSelect) (r : Row) : Bool :=
  s.conds.all fun c => c.2.1.compare (r.get c.1) c.2.2

/-- The `ORDER BY` key of a row: its values of the order's columns, `NULL` first. -/
def HistSelect.key (s : HistSelect) (r : Row) : List (WithBot Rank) :=
  s.order.map fun c => (r.get c).rank?

/-- The rows of `SELECT ... FROM table WHERE keep ORDER BY key`: the rows of the table that pass,
each as often as the table holds it, in an order sorted by the key; SQL orders rows of equal key
as it likes. -/
def SelectOrderBy {β γ : Type} [LinearOrder γ] (keep : β → Bool) (key : β → γ)
    (table rows : List β) : Prop :=
  rows.Perm (table.filter keep) ∧ rows.Sorted fun a b => key a ≤ key b

/-- What `queryD1Historical` prepares: a `SELECT`, or for a feed kind neither branch names, the
text the `+=` on an unassigned `sql` makes. -/
inductive HistStatement where
  | select (s : HistSelect)
  | text (sql : String) (params : List Param)

/-- D1 answers as SQLite does: a `SELECT` with no `NaN` bound by the rows of its table that pass
the `WHERE` clause, each as often as the table holds it, in an order that agrees with `ORDER BY`;
a text that starts with `undefined`, which is no keyword, is a syntax error. -/
structure HistFaithful (tables : String → List Row)
    (d1 : HistStatement → Except JsError (List Row)) : Prop where
  select : ∀ s rows, s.Bound → d1 (.select s) = .ok rows →
    SelectOrderBy s.keep s.key (tables s.table) rows
  undefined : ∀ rest params rows, d1 (.text ("undefined" ++ rest) params) ≠ .ok rows

/-- An executable D1: filter the statement's table, then sort by its key. -/
def histRun (tables : String → List Row) : HistStatement → Except JsError (List Row)
  | .select s => .ok (((tables s.table).filter s.keep).insertionSort fun a b => s.key a ≤ s.key b)
  | .text _ _ => .error ⟨"Error", "near \"undefined\": syntax error"⟩

/-- The executable D1 answers as SQLite does. -/
theorem histRun_faithful (tables : String → List Row) : HistFaithful tables (histRun tables) where
  select s rows _ h := by
    cases h
    haveI : IsTotal Row fun a b => s.key a ≤ s.key b := ⟨fun _ _ => le_total _ _⟩
    haveI : IsTrans Row fun a b => s.key a ≤ s.key b := ⟨fun _ _ _ => le_trans⟩
    exact ⟨List.perm_insertionSort _ _, List.sorted_insertionSort _ _⟩
  undefined _ _ _ := by simp [histRun]

/-! ### The day endpoint -/

/-- `if (hour !== null) { sql += " AND hour = ?"; params.push(hour) }`. -/
def hourCond : Option Param → List Cond
  | some h => [("hour", .eq, h)]
  | none => []

/-- `if (routeId) { sql += " AND route_id = ?"; params.push(routeId) }`. -/
def routeCond (routeId : Option String) : List Cond :=
  filterOn routeId fun r => ("route_id", .eq, .text r)

/-- `if (stopId) { sql += " AND stop_id = ?"; params.push(stopId) }`. -/
def stopCond (stopId : Option String) : List Cond :=
  filterOn stopId fun s => ("stop_id", .eq, .text s)

/-- The statement `queryD1Historical` prepares for a provider, feed kind, date, aggregation,
`hour`, `route_id` and `stop_id`. -/
def histStatement (provider feedKind date aggregation : String) (hour : Option Param)
    (routeId stopId : Option String) : HistStatement :=
  let base : List Cond := [("provider_key", .eq, .text provider), ("date", .eq, .text date)]
  let order := if aggregation = "hourly" then ["date", "hour"] else ["date"]
  if feedKind = "gtfsrt_trip_updates" then
    if aggregation = "hourly" then
      .select ⟨"rt_delays_hourly", base ++ hourCond hour ++ routeCond routeId ++ stopCond stopId,
        order⟩
    else .select ⟨"rt_delays_daily", base ++ routeCond routeId ++ stopCond stopId, order⟩
  else if feedKind = "gtfsrt_vehicle_positions" then
    if aggregation = "hourly" then
      .select ⟨"rt_positions_hourly", base ++ hourCond hour ++ routeCond routeId, order⟩
    else .select ⟨"rt_positions_daily", base ++ routeCond routeId, order⟩
  else
    .text ("undefined" ++ " ORDER BY date" ++ if aggregation = "hourly" then ", hour" else "")
      [.text provider, .text date]

/-- `queryD1Historical(env, ...)`: the rows D1 answers, or `null` when it throws. -/
def queryD1Historical (d1 : HistStatement → Except JsError (List Row))
    (provider feedKind date aggregation : String) (hour : Option Param)
    (routeId stopId : Option String) : Option (List Row) :=
  (d1 (histStatement provider feedKind date aggregation hour routeId stopId)).toOption

/-- A reply of the historical endpoints: `errorResponse(message, status)`, or the
`jsonResponse` of a day (`aggregation`, `date`, `hour`, `feed_kind`, `data`) or of a range
(`start_date`, `end_date`, `feed_kind`, `data`); the `count` of either is `data.length`. -/
inductive HistReply where
  | error (status : ℕ) (message : String)
  | day (aggregation date : String) (hour : Option String) (feed_kind : String) (data : List Row)
  | range (start_date end_date feed_kind : String) (data : List Row)
  deriving DecidableEq, Repr

/-- `hour ? parseInt(hour) : null`. -/
def hourParam : Option String → Option Param
  | some h => if h = "" then none else some (.ofInt (parseInt h))
  | none => none

/-- `handleHistorical(req, env, url)`. -/
def handleHistorical (d1 : HistStatement → Except JsError (List Row)) (url : SearchParams) :
    HistReply :=
  let feedKind := paramOr url "feed_kind" "gtfsrt_trip_updates"
  let date := url.get "date"
  let hour := url.get "hour"
  let aggregation := if truthy hour then "hourly" else "daily"
  if !truthy date then .error 400 "date parameter required" else
  match queryD1Historical d1 url.provider feedKind (date.getD "") aggregation (hourParam hour)
      (url.get "route_id") (url.get "stop_id") with
  | some (r :: rs) => .day aggregation (date.getD "") (hour.filter (· != "")) feedKind (r :: rs)
  | _ => .error 404 "Historical data not found"

/-! ### The range endpoint -/

/-- The statement of `handleHistoricalRange`. -/
def rangeSelect (provider feedKind startDate endDate : String) (routeId stopId : Option String) :
    HistSelect :=
  ⟨if feedKind = "gtfsrt_trip_updates" then "rt_delays_daily" else "rt_positions_daily",
    [("provider_key", .eq, .text provider), ("date", .ge, .text startDate),
      ("date", .le, .text endDate)] ++ routeCond routeId ++
      (if feedKind = "gtfsrt_trip_updates" then stopCond stopId else []),
    ["date"]⟩

/-- `handleHistoricalRange(req, env, url)`. -/
def handleHistoricalRange (d1 : HistStatement → Except JsError (List Row)) (url : SearchParams) :
    HistReply :=
  let feedKind := paramOr url "feed_kind" "gtfsrt_trip_updates"
  let startDate := url.get "start"
  let endDate := url.get "end"
  if !truthy startDate || !truthy endDate then
    .error 400 "start and end date parameters required"
  else
    match d1 (.select (rangeSelect url.provider feedKind (startDate.getD "") (endDate.getD "")
        (url.get "route_id") (url.get "stop_id"))) with
    | .ok rows => .range (startDate.getD "") (endDate.getD "") feedKind rows
    | .error e => .error 500 (if e.message = "" then "Internal server error" else e.message)

/-! ### Inversion -/

section Inversion

variable {d1 : HistStatement → Except JsError (List Row)} {url : SearchParams}

theorem truthy_iff {v : Option String} : truthy v = true ↔ ∃ s, v = some s ∧ s ≠ "" := by
  cases v <;> simp [truthy]

/-- What a day's reply says of the statement behind it. -/
theorem handleHistorical_day {agg date feedKind : String} {hour : Option String}
    {data : List Row} (h : handleHistorical d1 url = .day agg date hour feedKind data) :
    url.get "date" = some date ∧ date ≠ "" ∧
      agg = (if truthy (url.get "hour") then "hourly" else "daily") ∧
      feedKind = paramOr url "feed_kind" "gtfsrt_trip_updates" ∧
      queryD1Historical d1 url.provider feedKind date agg (hourParam (url.get "hour"))
        (url.get "route_id") (url.get "stop_id") = some data := by
  dsimp only [handleHistorical] at h
  generalize (if truthy (url.get "hour") = true then "hourly" else "daily") = a at h ⊢
  split_ifs at h with hd
  obtain ⟨d, hget, hne⟩ := truthy_iff.1 (by simpa using hd)
  rw [hget] at h
  split at h
  · next hq =>
    cases h
    exact ⟨hget, hne, rfl, rfl, hq⟩
  · cases h

/-- What a range's reply says of the statement behind it. -/
theorem handleHistoricalRange_range {startDate endDate feedKind : String} {data : List Row}
    (h : handleHistoricalRange d1 url = .range startDate endDate feedKind data) :
    url.get "start" = some startDate ∧ url.get "end" = some endDate ∧
      feedKind = paramOr url "feed_kind" "gtfsrt_trip_updates" ∧
      d1 (.select (rangeSelect url.provider feedKind startDate endDate (url.get "route_id")
        (url.get "stop_id"))) = .ok data := by
  dsimp only [handleHistoricalRange] at h
  split_ifs at h with hd
  have hd' : truthy (url.get "start") = true ∧ truthy (url.get "end") = true := by simpa using hd
  obtain ⟨⟨s, hs, -⟩, ⟨e, he, -⟩⟩ := And.imp truthy_iff.1 truthy_iff.1 hd'
  rw [hs, he] at h
  split at h
  · next hq =>
    cases h
    exact ⟨hs, he, rfl, hq⟩
  · cases h

/-- A statement D1 answers is a `SELECT`: the text of an unknown feed kind never is. -/
theorem queryD1Historical_select {tables : String → List Row} (hd1 : HistFaithful tables d1)
    {provider feedKind date agg : String} {hour : Option Param} {routeId stopId : Option String}
    {rows : List Row}
    (h : queryD1Historical d1 provider feedKind date agg hour routeId stopId = some rows) :
    ∃ s, histStatement provider feedKind date agg hour routeId stopId = .select s ∧
      d1 (.select s) = .ok rows := by
  unfold queryD1Historical at h
  cases hs : histStatement provider feedKind date agg hour routeId stopId with
  | select s =>
    rw [hs] at h
    refine ⟨s, rfl, ?_⟩
    revert h
    cases d1 (.select s) <;> simp [Except.toOption]
  | text sql params =>
    exfalso
    have hsql : ∃ rest, sql = "undefined" ++ rest := by
      unfold histStatement at hs
      split_ifs at hs <;> cases hs <;> exact ⟨_, String.append_assoc _ _ _⟩
    obtain ⟨rest, rfl⟩ := hsql
    rw [hs] at h
    cases hq : d1 (.text ("undefined" ++ rest) params) with
    | error => simp [hq, Except.toOption] at h
    | ok r => exact hd1.undefined _ _ _ hq

end Inversion

/-! ### The day is the range from that day to itself -/

theorem filterOn_text_params {v : Option String} (c : String) :
    Param.nan ∉ (filterOn v fun s => ((c, Op.eq, Param.text s) : Cond)).map (·.2.2) := by
  unfold filterOn
  split <;> [split; skip] <;> simp

/-- A statement whose conditions bind no `NaN` is bound. -/
theorem HistSelect.bound_of_conds {s : HistSelect} (h : ∀ c ∈ s.conds, c.2.2 ≠ .nan) :
    s.Bound := fun hs => by
  obtain ⟨c, hc, hn⟩ := List.mem_map.1 hs
  exact h c hc hn

/-- A route condition binds a text. -/
theorem routeCond_ne_nan {v : Option String} {c : Cond} (h : c ∈ routeCond v) : c.2.2 ≠ .nan := by
  unfold routeCond filterOn at h
  split at h <;> [split at h; skip] <;> simp_all

/-- A day's daily statement reads the table the range reads, with the range's key, keeps the
rows the range from that day to itself keeps, and binds no `NaN`. -/
theorem histStatement_daily {provider feedKind date : String} {hour : Option Param}
    {routeId stopId : Option String} {s : HistSelect}
    (h : histStatement provider feedKind date "daily" hour routeId stopId = .select s) :
    let r := rangeSelect provider feedKind date date routeId stopId
    s.table = r.table ∧ s.key = r.key ∧ s.keep = r.keep ∧ s.Bound := by
  have hdate : ∀ (rest : List Cond) (row : Row),
      HistSelect.keep ⟨"", ("provider_key", .eq, .text provider) :: ("date", .eq, .text date) ::
        rest, []⟩ row =
      HistSelect.keep ⟨"", ("provider_key", .eq, .text provider) :: ("date", .ge, .text date) ::
        ("date", .le, .text date) :: rest, []⟩ row := by
    intro rest row
    simp only [HistSelect.keep, List.all_cons, Op.compare_eq, Bool.and_assoc]
  have hdaily : ("daily" = "hourly") ↔ False := by decide
  have hbound : ∀ rest : List Cond, Param.nan ∉ rest.map (·.2.2) →
      HistSelect.Bound ⟨"", ("provider_key", .eq, .text provider) :: ("date", .eq, .text date) ::
        rest, []⟩ := by
    intro rest h
    simpa [HistSelect.Bound, HistSelect.params] using h
  unfold histStatement at h
  simp only [hdaily, if_false] at h
  split_ifs at h with h₁ h₂ <;> cases h
  · -- trip updates read `rt_delays_daily`, filtered by route and stop
    refine ⟨by simp [rangeSelect, h₁], rfl, funext fun row => ?_, hbound _ ?_⟩
    · simp only [rangeSelect, h₁, if_true]
      exact hdate _ row
    · simp only [List.append_eq, List.nil_append, List.map_append, List.mem_append, not_or]
      exact ⟨filterOn_text_params _, filterOn_text_params _⟩
  · -- vehicle positions read `rt_positions_daily`, filtered by route
    refine ⟨by simp [rangeSelect, h₁], rfl, funext fun row => ?_,
      hbound _ (filterOn_text_params _)⟩
    simp only [rangeSelect, if_neg h₁, List.append_nil]
    exact hdate _ row

/-- The range statement binds only texts. -/
theorem rangeSelect_bound (provider feedKind startDate endDate : String)
    (routeId stopId : Option String) :
    (rangeSelect provider feedKind startDate endDate routeId stopId).Bound := by
  unfold rangeSelect HistSelect.Bound HistSelect.params routeCond stopCond
  simp only [List.map_append, List.mem_append, not_or]
  refine ⟨⟨by simp, filterOn_text_params _⟩, ?_⟩
  split_ifs
  · exact filterOn_text_params _
  · simp

theorem paramOr_cons {name n : String} (h : name ≠ n) (v dflt : String) (url : SearchParams) :
    paramOr ((name, v) :: url) n dflt = paramOr url n dflt := by
  simp [paramOr, h]

/-- **The day and the range agree.**  Without an `hour`, what `/historical` answers for a day and
what `/historical/range` answers from that day to itself are the same rows, up to their order:
for either feed kind, with or without a route and a stop, whatever the tables hold. -/
theorem historical_range_agree (tables : String → List Row)
    (d1 : HistStatement → Except JsError (List Row)) (hd1 : HistFaithful tables d1)
    (q : SearchParams) (hhour : truthy (q.get "hour") = false) (d : String)
    {agg feedKind feedKind' : String} {hour : Option String} {day range : List Row}
    (hday : handleHistorical d1 (("date", d) :: q) = .day agg d hour feedKind day)
    (hrange : handleHistoricalRange d1 (("start", d) :: ("end", d) :: q) =
      .range d d feedKind' range) :
    day.Perm range := by
  obtain ⟨-, -, hagg, rfl, hq⟩ := handleHistorical_day hday
  obtain ⟨-, -, rfl, hr⟩ := handleHistoricalRange_range hrange
  simp only [SearchParams.get_cons, SearchParams.provider_cons, paramOr_cons, ne_eq,
    String.reduceEq, not_false_eq_true, if_false, hhour] at hagg hq hr
  subst hagg
  obtain ⟨s, hs, hsel⟩ := queryD1Historical_select hd1 hq
  obtain ⟨htable, -, hkeep, hbound⟩ := histStatement_daily hs
  have hdayRows := hd1.select s day hbound hsel
  have hrangeRows := hd1.select _ range (rangeSelect_bound _ _ _ _ _ _) hr
  rw [htable, hkeep] at hdayRows
  exact hdayRows.1.trans hrangeRows.1.symm

/-- A row of STM's daily delays on route 24. -/
def delayRow : Row :=
  [("provider_key", .text "stm"), ("date", .text "2025-11-05"), ("route_id", .text "24"),
    ("avg_arrival_delay", .real 42)]

/-- `rt_delays_daily` holds `delayRow`; every other table is empty. -/
def oneDelay (table : String) : List Row := if table = "rt_delays_daily" then [delayRow] else []

/-- The day `2025-11-05` and the range from it to itself both answer `delayRow`. -/
theorem historical_range_agree_oneDelay :
    handleHistorical (histRun oneDelay) [("date", "2025-11-05")] =
        .day "daily" "2025-11-05" none "gtfsrt_trip_updates" [delayRow] ∧
      handleHistoricalRange (histRun oneDelay) [("start", "2025-11-05"), ("end", "2025-11-05")] =
        .range "2025-11-05" "2025-11-05" "gtfsrt_trip_updates" [delayRow] ∧
      [delayRow].Perm [delayRow] :=
  have hday : handleHistorical (histRun oneDelay) [("date", "2025-11-05")] =
      .day "daily" "2025-11-05" none "gtfsrt_trip_updates" [delayRow] := by decide
  have hrange : handleHistoricalRange (histRun oneDelay)
      [("start", "2025-11-05"), ("end", "2025-11-05")] =
        .range "2025-11-05" "2025-11-05" "gtfsrt_trip_updates" [delayRow] := by
    simp [handleHistoricalRange, rangeSelect, histRun, oneDelay, delayRow, HistSelect.keep,
      Op.compare, Row.get, Value.rank?, StaticApi.Param.rank?, truthy, paramOr,
      SearchParams.provider, SearchParams.get, routeCond, stopCond, filterOn, List.filter_cons,
      List.lookup]
  ⟨hday, hrange, historical_range_agree _ _ (histRun_faithful _) [] rfl _ hday hrange⟩

/-! ### The historical positions on a map -/

/-- JavaScript truthiness of a column's value: `NULL`, `0` and `''` are falsy. -/
def Value.truthy : Value → Bool
  | .null => false
  | .integer i => i != 0
  | .real x => x != 0
  | .text s => s != ""

/-- `row.avg_latitude && row.avg_longitude`. -/
def hasPosition (row : Row) : Bool :=
  (row.get "avg_latitude").truthy && (row.get "avg_longitude").truthy

/-- A GeoJSON `Point` of `handleGeoJSONHistoricalPositions`: its coordinates, and its
properties `route_id`, `vehicle_id`, `trip_id`, `bearing`, `speed` and `vehicle_count`. -/
structure PositionPoint (α : Type) where
  coordinates : α × α
  properties : Row
  deriving DecidableEq, Repr

/-- The point of a row: `[parseFloat(row.avg_longitude), parseFloat(row.avg_latitude)]`. -/
def positionPoint {α : Type} (parseFloat : Value → α) (row : Row) : PositionPoint α :=
  ⟨(parseFloat (row.get "avg_longitude"), parseFloat (row.get "avg_latitude")),
    [("route_id", row.get "route_id"), ("vehicle_id", row.get "vehicle_id"),
      ("trip_id", row.get "trip_id"), ("bearing", row.get "avg_bearing"),
      ("speed", row.get "avg_speed"), ("vehicle_count", row.get "vehicle_count")]⟩

/-- The statement of `handleGeoJSONHistoricalPositions`: the hourly table when `hour` is given
at all (`hour !== null`, where the other handlers ask `hour` to be truthy), and no `ORDER BY`.
It selects the eight columns `positionPoint` and `hasPosition` read. -/
def positionsSelect (provider date : String) (hour routeId : Option String) : HistSelect :=
  match hour with
  | some h => ⟨"rt_positions_hourly", [("provider_key", .eq, .text provider),
      ("date", .eq, .text date), ("hour", .eq, .ofInt (parseInt h))] ++ routeCond routeId, []⟩
  | none => ⟨"rt_positions_daily", [("provider_key", .eq, .text provider),
      ("date", .eq, .text date)] ++ routeCond routeId, []⟩

/-- A reply of `handleGeoJSONHistoricalPositions`: `errorResponse(message, status)`, or the
`FeatureCollection` of its points. -/
inductive PointsReply (α : Type) where
  | error (status : ℕ) (message : String)
  | features (points : List (PositionPoint α))
  deriving DecidableEq, Repr

/-- `handleGeoJSONHistoricalPositions(req, env, url)`. -/
def handleGeoJSONHistoricalPositions {α : Type} (parseFloat : Value → α)
    (d1 : HistStatement → Except JsError (List Row)) (url : SearchParams) : PointsReply α :=
  let date := url.get "date"
  if !truthy date then .error 400 "date parameter required" else
  match d1 (.select (positionsSelect url.provider (date.getD "") (url.get "hour")
      (url.get "route_id"))) with
  | .ok rows => .features ((rows.filter hasPosition).map (positionPoint parseFloat))
  | .error e => .error 500 (if e.message = "" then "Internal server error" else e.message)

/-- **The map shows the historical positions.**  For a day, with no `hour` or with one
`parseInt` reads, the points `/geojson/historical-positions` answers are, up to their order, the
vehicle positions `/historical` answers, but for those whose average latitude or longitude is
`NULL` or `0`: whatever the tables hold, when both answer.  An empty `hour` is where they part:
`/historical` reads it as no hour, the map binds `NaN` for it. -/
theorem historicalPositions_geojson {α : Type} (parseFloat : Value → α)
    (tables : String → List Row) (d1 : HistStatement → Except JsError (List Row))
    (hd1 : HistFaithful tables d1) (q : SearchParams)
    (hhour : ∀ h, q.get "hour" = some h → h ≠ "" ∧ ∃ n, parseInt h = some n)
    (hkind : paramOr q "feed_kind" "gtfsrt_trip_updates" = "gtfsrt_vehicle_positions") (d : String)
    {agg feedKind : String} {hour : Option String} {data : List Row}
    (hday : handleHistorical d1 (("date", d) :: q) = .day agg d hour feedKind data)
    {points : List (PositionPoint α)}
    (hgeo : handleGeoJSONHistoricalPositions parseFloat d1 (("date", d) :: q) = .features points) :
    points.Perm ((data.filter hasPosition).map (positionPoint parseFloat)) := by
  obtain ⟨-, hd, rfl, rfl, hq⟩ := handleHistorical_day hday
  simp only [SearchParams.get_cons, SearchParams.provider_cons, paramOr_cons, ne_eq,
    String.reduceEq, not_false_eq_true, if_false, hkind] at hq
  obtain ⟨s, hs, hsel⟩ := queryD1Historical_select hd1 hq
  have htd : truthy (some d) = true := truthy_iff.2 ⟨d, rfl, hd⟩
  simp only [handleGeoJSONHistoricalPositions, SearchParams.get_cons, SearchParams.provider_cons,
    ne_eq, String.reduceEq, not_false_eq_true, if_false, if_true, htd, Option.getD_some,
    Bool.not_true, Bool.false_eq_true] at hgeo
  rcases hrows : d1 (.select (positionsSelect q.provider d (q.get "hour") (q.get "route_id"))) with
    _ | rows <;> rw [hrows] at hgeo <;> cases hgeo
  -- the day's statement and the map's read one table and keep the same rows
  obtain ⟨htable, hkeep, hb, hb'⟩ : s.table = (positionsSelect q.provider d (q.get "hour")
      (q.get "route_id")).table ∧ s.keep = (positionsSelect q.provider d (q.get "hour")
      (q.get "route_id")).keep ∧ s.Bound ∧
      (positionsSelect q.provider d (q.get "hour") (q.get "route_id")).Bound := by
    rcases hh : q.get "hour" with _ | h
    · -- no hour: `rt_positions_daily`
      simp only [hh, truthy, hourParam, histStatement, Bool.false_eq_true, if_false,
        String.reduceEq, if_true] at hs
      cases hs
      refine ⟨rfl, rfl, ?_, ?_⟩ <;> apply HistSelect.bound_of_conds <;>
        simp only [positionsSelect, List.cons_append, List.nil_append, List.mem_cons,
          forall_eq_or_imp] <;>
        exact ⟨nofun, nofun, fun _ => routeCond_ne_nan⟩
    · -- an hour `parseInt` reads: `rt_positions_hourly`, with that hour
      obtain ⟨hne, n, hn⟩ := hhour h hh
      have ht : truthy (some h) = true := truthy_iff.2 ⟨h, rfl, hne⟩
      simp only [hh, ht, hourParam, hne, hn, histStatement, if_true, if_false, String.reduceEq,
        hourCond, Param.ofInt] at hs
      cases hs
      refine ⟨rfl, by simp only [positionsSelect, hn, Param.ofInt]; rfl, ?_, ?_⟩ <;>
        apply HistSelect.bound_of_conds <;>
        simp only [positionsSelect, hn, Param.ofInt, List.cons_append, List.nil_append,
          List.mem_cons, forall_eq_or_imp] <;>
        exact ⟨nofun, nofun, nofun, fun _ => routeCond_ne_nan⟩
  have hdata := (hd1.select s data hb hsel).1
  rw [htable, hkeep] at hdata
  exact (((hd1.select _ rows hb' hrows).1.trans hdata.symm).filter hasPosition).map _

/-- A row of STM's daily positions of vehicle `v1` on route 24. -/
def vehicleRow : Row :=
  [("provider_key", .text "stm"), ("date", .text "2025-11-05"), ("route_id", .text "24"),
    ("vehicle_id", .text "v1"), ("avg_latitude", .real 45), ("avg_longitude", .real (-73))]

/-- `rt_positions_daily` holds `vehicleRow`; every other table is empty. -/
def onePosition (table : String) : List Row :=
  if table = "rt_positions_daily" then [vehicleRow] else []

/-- The map and `/historical` show `vehicleRow` on its day. -/
theorem historicalPositions_geojson_onePosition :
    handleHistorical (histRun onePosition)
        [("date", "2025-11-05"), ("feed_kind", "gtfsrt_vehicle_positions")] =
        .day "daily" "2025-11-05" none "gtfsrt_vehicle_positions" [vehicleRow] ∧
      handleGeoJSONHistoricalPositions id (histRun onePosition)
        [("date", "2025-11-05"), ("feed_kind", "gtfsrt_vehicle_positions")] =
        .features [positionPoint id vehicleRow] ∧
      [positionPoint id vehicleRow].Perm
        (([vehicleRow].filter hasPosition).map (positionPoint id)) :=
  have hday : handleHistorical (histRun onePosition)
      [("date", "2025-11-05"), ("feed_kind", "gtfsrt_vehicle_positions")] =
      .day "daily" "2025-11-05" none "gtfsrt_vehicle_positions" [vehicleRow] := by decide
  have hgeo : handleGeoJSONHistoricalPositions id (histRun onePosition)
      [("date", "2025-11-05"), ("feed_kind", "gtfsrt_vehicle_positions")] =
      .features [positionPoint id vehicleRow] := by decide
  ⟨hday, hgeo, historicalPositions_geojson id onePosition (histRun onePosition)
    (histRun_faithful _) [("feed_kind", "gtfsrt_vehicle_positions")] (fun _ h => by cases h)
    (by decide) _ hday hgeo⟩

end Transit
