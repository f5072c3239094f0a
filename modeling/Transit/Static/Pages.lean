import Transit.Api.Handlers
import Mathlib.Data.String.Basic

/-!
# Paging through the static API

`/api/v1/static/routes`, `/stops`, `/trips` and `/stop-times` of the static API worker answer one
page of a table for the provider's latest feed date:

```
SELECT * FROM routes WHERE provider_key = ? AND feed_date = ? [AND route_id = ?]
  [AND route_type = ?] ORDER BY route_id LIMIT ? OFFSET ?
```

with `limit = parseInt(url.searchParams.get('limit') || '100')` and `offset` likewise from `'0'`.
SQL orders rows of equal key as it likes, so pages cut from one ordered query need not be the
pages of one order.  Here they are: each handler orders by the one column of the table's primary
key (`PRIMARY KEY (provider_key, feed_date, route_id)` and so on) that its `WHERE` leaves free,
so no two rows it keeps have the same key.  Requesting the same query with `offset` at
`0, n, 2n, ...` and `limit` at `n` therefore gives, page after page, the rows of the latest feed
date that pass the filters, in key order, each exactly once: the first `k` pages are the first
`k · n` rows of that order.

The D1 semantics of the statements is stated once, as what D1 may answer (`Select.Answers`);
an executable D1 (`Select.run`) shows it can be met.  A value `parseInt` reads as `NaN` is bound
as `NaN`, and what D1 does with it is left open.

Given `lat`, `lon` and `radius`, `handleStops` asks instead for the stops of a box around the
centre, ordered by their great-circle distance, with a statement of eleven placeholders.  It
binds thirteen values: `params` already holds `[provider, feedDate]` when the branch pushes the
eleven it lists.  D1 rejects a statement bound with more values than it has placeholders, so the
search never answers a stop: the router answers `500`.

## Main definitions

* `parseInt` — JavaScript's `parseInt` with no radix.
* `Select`, `Select.sql`, `Select.params` — a statement of these handlers, its text and values.
* `Select.Answers`, `Faithful`, `PrimaryKey` — what D1 may answer, an oracle that answers so,
  and a table's primary key.
* `handlePaged` — the shape the four handlers share; `handleRoutes`, `handleStops`,
  `handleTrips`, `handleStopTimes`.
* `nearbySql`, `nearbyParams`, `D1.ChecksBindings` — the nearby statement, the values
  `handleStops` binds to it, and a D1 that counts them.

## Main results

* `Select.run_faithful` — the executable D1 answers as SQL says.
* `eq_of_perm_of_sorted_key` — a sort by a key that is injective on the rows is unique.
* `handlePaged_pages` — the first `k` pages are the first `k · n` rows of the one order.
* `handleStops_nearby_error` — the nearby search answers `500`.
-/

namespace Transit

namespace StaticApi

/-! ### `parseInt` -/

/-- JavaScript's `WhiteSpace` and `LineTerminator`, which `parseInt` skips before the number. -/
def isJsSpace (c : Char) : Bool :=
  c = '\t' || c = '\n' || c = '\x0b' || c = '\x0c' || c = '\r' || c = ' ' || c = '\xa0' ||
    c = '\u1680' || ('\u2000' ≤ c && c ≤ '\u200a') || c = '\u2028' || c = '\u2029' ||
    c = '\u202f' || c = '\u205f' || c = '\u3000' || c = '\ufeff'

/-- The value of a digit in a radix up to 36, when it is one. -/
def digitVal (radix : ℕ) (c : Char) : Option ℕ :=
  let v :=
    if '0' ≤ c ∧ c ≤ '9' then some (c.toNat - '0'.toNat)
    else if 'a' ≤ c ∧ c ≤ 'z' then some (c.toNat - 'a'.toNat + 10)
    else if 'A' ≤ c ∧ c ≤ 'Z' then some (c.toNat - 'A'.toNat + 10)
    else none
  v.filter (· < radix)

/-- The value of the longest prefix of digits, after `acc`, and how many digits it has. -/
def digitsValue (radix : ℕ) : List Char → ℕ → ℕ → ℕ × ℕ
  | [], acc, n => (acc, n)
  | c :: cs, acc, n =>
    match digitVal radix c with
    | some d => digitsValue radix cs (acc * radix + d) (n + 1)
    | none => (acc, n)

/-- `parseInt(s)`: skip white space, read a sign, a `0x` prefix for hexadecimal, and the longest
run of digits; `NaN` (`none`) when there is no digit.  The value is exact: beyond `2 ^ 53`
JavaScript rounds it. -/
def parseInt (s : String) : Option ℤ :=
  let cs := s.toList.dropWhile isJsSpace
  let (sign, cs) : ℤ × List Char :=
    match cs with
    | '-' :: r => (-1, r)
    | '+' :: r => (1, r)
    | r => (1, r)
  let (radix, cs) : ℕ × List Char :=
    match cs with
    | '0' :: 'x' :: r => (16, r)
    | '0' :: 'X' :: r => (16, r)
    | r => (10, r)
  let (v, n) := digitsValue radix cs 0 0
  if n = 0 then none else some (sign * v)

example : parseInt " 25px" = some 25 ∧ parseInt "-0x1f" = some (-31) ∧ parseInt "" = none := by
  decide

/-! ### Values, statements and their text -/

/-- A value of a column: an `INTEGER` or a `TEXT`. -/
inductive Value where
  | int (n : ℤ)
  | text (s : String)
  deriving DecidableEq, Repr

/-- SQLite's order of values: integers by value, then texts by their UTF-8 bytes, which is the
order of their characters. -/
def Value.rank : Value → Lex (ℕ × Lex (ℤ × String))
  | .int n => toLex (0, toLex (n, ""))
  | .text s => toLex (1, toLex (0, s))

theorem Value.rank_injective : Function.Injective Value.rank := by
  intro a b h
  cases a <;> cases b <;> simp_all [Value.rank]

instance : LinearOrder Value := LinearOrder.lift' Value.rank Value.rank_injective

/-- A value handed to `bind`: a string, a number `parseInt` read, or `NaN`. -/
inductive Param where
  | text (s : String)
  | int (n : ℤ)
  | nan
  deriving DecidableEq, Repr

/-- The number `parseInt` gives. -/
def Param.ofInt : Option ℤ → Param
  | some n => .int n
  | none => .nan

/-- `column = ?` with the value bound, on a row's value of the column; `NULL` equals nothing. -/
def Param.matches : Param → Option Value → Bool
  | .text s, some (.text t) => s == t
  | .int n, some (.int m) => n == m
  | _, _ => false

theorem Param.eq_of_matches {p : Param} {v w : Option Value} (hv : p.matches v = true)
    (hw : p.matches w = true) : v = w := by
  cases p <;> rcases v with _ | ⟨_ | _⟩ <;> rcases w with _ | ⟨_ | _⟩ <;>
    simp_all [Param.matches]

/-- `SELECT * FROM table WHERE c₁ = ? AND ... [ORDER BY order] [LIMIT ? OFFSET ?]`: the table,
the conditions with their values, the `ORDER BY` column, and the values of `LIMIT` and
`OFFSET`. -/
structure Select where
  table : String
  conds : List (String × Param)
  order : Option String
  page : Option (Param × Param)
  deriving Repr

/-- The statement's text, as the handlers build it. -/
def Select.sql (s : Select) : String :=
  "SELECT * FROM " ++ s.table ++ " WHERE " ++ " AND ".intercalate (s.conds.map (·.1 ++ " = ?")) ++
    (match s.order with
      | some o => " ORDER BY " ++ o
      | none => "") ++
    (match s.page with
      | some _ => " LIMIT ? OFFSET ?"
      | none => "")

/-- The values bound, in order. -/
def Select.params (s : Select) : List Param :=
  s.conds.map (·.2) ++
    match s.page with
    | some (l, o) => [l, o]
    | none => []

/-- No `NaN` is bound. -/
def Select.Bound (s : Select) : Prop := Param.nan ∉ s.params

/-! ### What D1 answers -/

section Semantics

variable {ρ : Type} (col : ρ → String → Option Value)

/-- The rows the `WHERE` keeps: every condition holds of the row's value of its column. -/
def keepRow (conds : List (String × Param)) (r : ρ) : Bool :=
  conds.all fun c => c.2.matches (col r c.1)

/-- The `ORDER BY` key of a row: its value of the column, with `NULL` first. -/
def sortKey (o : String) (r : ρ) : WithBot Value := col r o

/-- `LIMIT l OFFSET o`: skip `o` rows, none when `o` is negative, then keep `l`, all when `l` is
negative. -/
def limitOffset (l o : ℤ) (rows : List ρ) : List ρ :=
  if l < 0 then rows.drop o.toNat else (rows.drop o.toNat).take l.toNat

/-- The answers D1 may give over `table`: the rows the `WHERE` keeps, each as often as the table
holds it, in an order sorted by the `ORDER BY` column, rows of equal key in any order, and then
cut by `LIMIT` and `OFFSET`. -/
def Select.Answers (s : Select) (table rows : List ρ) : Prop :=
  ∃ ordered, ordered.Perm (table.filter (keepRow col s.conds)) ∧
    (∀ o, s.order = some o → ordered.Sorted fun a b => sortKey col o a ≤ sortKey col o b) ∧
    match s.page with
    | some (.int l, .int o) => rows = limitOffset l o ordered
    | some _ => True
    | none => rows = ordered

/-- An oracle for a table answers every statement with no `NaN` bound as SQL says, when it
does not throw. -/
def Faithful (table : List ρ) (d1 : Select → Except JsError (List ρ)) : Prop :=
  ∀ s rows, s.Bound → d1 s = .ok rows → s.Answers col table rows

/-- An executable D1: filter, sort by the key, and cut. -/
def Select.run (table : List ρ) (s : Select) : List ρ :=
  let kept := table.filter (keepRow col s.conds)
  let ordered :=
    match s.order with
    | some o => kept.mergeSort fun a b => decide (sortKey col o a ≤ sortKey col o b)
    | none => kept
  match s.page with
  | some (.int l, .int o) => limitOffset l o ordered
  | _ => ordered

/-- The executable D1 answers as SQL says. -/
theorem Select.run_faithful (table : List ρ) :
    Faithful col table fun s => .ok (s.run col table) := by
  rintro s rows - ⟨⟩
  have hsort : ∀ o, (table.filter (keepRow col s.conds)).mergeSort
      (fun a b => decide (sortKey col o a ≤ sortKey col o b)) |>.Sorted
        fun a b => sortKey col o a ≤ sortKey col o b := fun o =>
    (List.sorted_mergeSort
      (fun _ _ _ h₁ h₂ => by simp only [decide_eq_true_eq] at *; exact h₁.trans h₂)
      (fun a b => by simpa using le_total _ _) _).imp (by simp)
  cases ho : s.order with
  | none =>
    refine ⟨table.filter (keepRow col s.conds), List.Perm.refl _, fun _ h => by simp [ho] at h, ?_⟩
    rcases s with ⟨_, _, _, _ | ⟨_ | _ | _, _ | _ | _⟩⟩ <;> simp_all [Select.run]
  | some o =>
    refine ⟨_, List.mergeSort_perm _ _, fun o' ho' => by cases ho.symm.trans ho'; exact hsort o, ?_⟩
    rcases s with ⟨_, _, _, _ | ⟨_ | _ | _, _ | _ | _⟩⟩ <;> simp_all [Select.run]

/-- A table's rows are distinct on its primary key columns. -/
def PrimaryKey (table : List ρ) (pk : List String) : Prop :=
  (table.map fun r => pk.map (col r)).Nodup

end Semantics

/-! ### A sort by a key injective on the rows is unique -/

section Unique

variable {ρ γ : Type} [LinearOrder γ] {key : ρ → γ}

/-- Two orders of the same rows, both sorted by a key that no two of the rows share, are one. -/
theorem eq_of_perm_of_sorted_key :
    ∀ {l₁ l₂ : List ρ}, (∀ a ∈ l₁, ∀ b ∈ l₁, key a = key b → a = b) → l₁.Perm l₂ →
      l₁.Sorted (fun a b => key a ≤ key b) → l₂.Sorted (fun a b => key a ≤ key b) → l₁ = l₂
  | [], _, _, hp, _, _ => (List.perm_nil.1 hp.symm).symm
  | _ :: _, [], _, hp, _, _ => absurd hp.length_eq (by simp)
  | a :: as, b :: bs, hinj, hp, h₁, h₂ => by
    have hb : b ∈ a :: as := hp.symm.subset (List.mem_cons_self b bs)
    have ha : a ∈ b :: bs := hp.subset (List.mem_cons_self a as)
    -- each head is the least of the rows, so the two heads share a key
    have hab : key a ≤ key b := by
      rcases List.mem_cons.1 hb with rfl | hb
      · exact le_rfl
      · exact List.rel_of_sorted_cons h₁ b hb
    have hba : key b ≤ key a := by
      rcases List.mem_cons.1 ha with rfl | ha
      · exact le_rfl
      · exact List.rel_of_sorted_cons h₂ a ha
    obtain rfl := hinj a (List.mem_cons_self a as) b hb (le_antisymm hab hba)
    rw [eq_of_perm_of_sorted_key
      (fun x hx y hy => hinj x (List.mem_cons_of_mem a hx) y (List.mem_cons_of_mem a hy))
      hp.cons_inv h₁.of_cons h₂.of_cons]

end Unique

/-- The pages of `n` rows at offsets `0, n, ..., (k - 1) n`, one after another, are the first
`k n` rows. -/
theorem flatMap_pages {ρ : Type} (rows : List ρ) (n : ℕ) :
    ∀ k, (List.range k).flatMap (fun i => (rows.drop (i * n)).take n) = rows.take (k * n)
  | 0 => by simp
  | k + 1 => by
    rw [List.range_succ, List.flatMap_append, flatMap_pages rows n k, Nat.succ_mul, List.take_add,
      List.flatMap_cons, List.flatMap_nil, List.append_nil]

/-! ### The tables -/

/-- A row of `routes`, with the columns the handlers name. -/
structure RouteRow where
  provider_key : String
  feed_date : String
  route_id : String
  route_type : Option ℤ
  deriving DecidableEq, Repr

/-- The columns of a route. -/
def RouteRow.get (r : RouteRow) : String → Option Value
  | "provider_key" => some (.text r.provider_key)
  | "feed_date" => some (.text r.feed_date)
  | "route_id" => some (.text r.route_id)
  | "route_type" => r.route_type.map .int
  | _ => none

/-- A row of `trips`, with the columns the handlers name. -/
structure TripRow where
  provider_key : String
  feed_date : String
  route_id : String
  trip_id : String
  shape_id : Option String
  deriving DecidableEq, Repr

/-- The columns of a trip. -/
def TripRow.get (t : TripRow) : String → Option Value
  | "provider_key" => some (.text t.provider_key)
  | "feed_date" => some (.text t.feed_date)
  | "route_id" => some (.text t.route_id)
  | "trip_id" => some (.text t.trip_id)
  | "shape_id" => t.shape_id.map .text
  | _ => none

/-- A row of `stop_times`, with the columns the handlers name. -/
structure StopTimeRow where
  provider_key : String
  feed_date : String
  trip_id : String
  stop_id : String
  stop_sequence : ℤ
  deriving DecidableEq, Repr

/-- The columns of a stop time. -/
def StopTimeRow.get (st : StopTimeRow) : String → Option Value
  | "provider_key" => some (.text st.provider_key)
  | "feed_date" => some (.text st.feed_date)
  | "trip_id" => some (.text st.trip_id)
  | "stop_id" => some (.text st.stop_id)
  | "stop_sequence" => some (.int st.stop_sequence)
  | _ => none

/-- A row of `stops`, with the columns the handlers read. -/
structure StopRow (α : Type) where
  provider_key : String
  feed_date : String
  stop_id : String
  stop_lat : α
  stop_lon : α
  deriving DecidableEq, Repr

/-- The columns of a stop that the handlers name in a condition or an order. -/
def stopColumn {α : Type} (s : StopRow α) : String → Option Value
  | "provider_key" => some (.text s.provider_key)
  | "feed_date" => some (.text s.feed_date)
  | "stop_id" => some (.text s.stop_id)
  | _ => none

/-- A row of `feed_info`, with the columns `getLatestFeedDate` reads. -/
structure FeedInfoRow where
  provider_key : String
  feed_date : String
  deriving DecidableEq, Repr

/-- The static tables, each with the primary key its `CREATE TABLE` declares. -/
structure StaticDb (α : Type) where
  feedInfo : List FeedInfoRow
  routes : List RouteRow
  stops : List (StopRow α)
  trips : List TripRow
  stopTimes : List StopTimeRow
  routes_pk : PrimaryKey RouteRow.get routes ["provider_key", "feed_date", "route_id"]
  stops_pk : PrimaryKey stopColumn stops ["provider_key", "feed_date", "stop_id"]
  trips_pk : PrimaryKey TripRow.get trips ["provider_key", "feed_date", "trip_id"]
  stopTimes_pk :
    PrimaryKey StopTimeRow.get stopTimes ["provider_key", "feed_date", "trip_id", "stop_sequence"]

/-! ### The nearby statement -/

/-- A value `handleStops` binds to its nearby statement: a text, a number `parseFloat` read, or a
number `parseInt` read, `NaN` (`none`) included. -/
inductive SqlValue (α : Type) where
  | text (s : String)
  | float (x : α)
  | int (n : Option ℤ)
  deriving DecidableEq, Repr

/-- The nearby statement: the stops of the box, with the great-circle `distance` from the centre
(the spherical law of cosines, on a sphere of radius 6371000 m), nearest first. -/
def nearbySql : String :=
  "SELECT *, (6371000 * acos(cos(radians(?)) * cos(radians(stop_lat)) * " ++
    "cos(radians(stop_lon) - radians(?)) + sin(radians(?)) * sin(radians(stop_lat)))) " ++
    "AS distance " ++
    "FROM stops WHERE provider_key = ? AND feed_date = ? AND stop_lat BETWEEN ? AND ? " ++
    "AND stop_lon BETWEEN ? AND ? ORDER BY distance LIMIT ? OFFSET ?"

set_option maxRecDepth 2000 in
theorem nearbySql_placeholders : nearbySql.toList.count '?' = 11 := by decide

/-- `params` of the nearby branch: `[provider, feedDate]`, then what the branch pushes,
`latNum, lonNum, latNum, provider, feedDate, latNum ∓ radiusDeg, lonNum ∓ radiusDeg, limit,
offset`, with `radiusDeg = parseFloat(radius) / 111000` ("rough conversion: 1 degree ≈ 111km"). -/
def nearbyParams {α : Type} [DivisionRing α] (provider feedDate : String) (latNum lonNum radius : α)
    (limit offset : Option ℤ) : List (SqlValue α) :=
  let radiusDeg := radius / 111000
  [.text provider, .text feedDate] ++
    [.float latNum, .float lonNum, .float latNum, .text provider, .text feedDate,
      .float (latNum - radiusDeg), .float (latNum + radiusDeg), .float (lonNum - radiusDeg),
      .float (lonNum + radiusDeg), .int limit, .int offset]

theorem nearbyParams_length {α : Type} [DivisionRing α] (provider feedDate : String)
    (latNum lonNum radius : α) (limit offset : Option ℤ) :
    (nearbyParams provider feedDate latNum lonNum radius limit offset).length = 13 := rfl

/-- How D1 answers the handlers' statements, or throws.  The nearby statement of `handleStops`
is answered from its text and the values bound to it. -/
structure D1 (α : Type) where
  routes : Select → Except JsError (List RouteRow)
  stops : Select → Except JsError (List (StopRow α))
  nearby : String → List (SqlValue α) → Except JsError (List (StopRow α))
  trips : Select → Except JsError (List TripRow)
  stopTimes : Select → Except JsError (List StopTimeRow)

/-- D1 answers the statements over each table as SQL says. -/
structure D1.Faithful {α : Type} (db : StaticDb α) (d1 : D1 α) : Prop where
  routes : StaticApi.Faithful RouteRow.get db.routes d1.routes
  stops : StaticApi.Faithful stopColumn db.stops d1.stops
  trips : StaticApi.Faithful TripRow.get db.trips d1.trips
  stopTimes : StaticApi.Faithful StopTimeRow.get db.stopTimes d1.stopTimes

/-- D1 throws on a statement bound with more or fewer values than it has placeholders. -/
def D1.ChecksBindings {α : Type} (d1 : D1 α) : Prop :=
  ∀ sql params, params.length ≠ sql.toList.count '?' → ∃ e, d1.nearby sql params = .error e

/-- What the executable D1 throws on a statement bound with the wrong number of values. -/
def bindingError : JsError :=
  ⟨"Error", "D1_ERROR: Wrong number of parameter bindings for SQL query."⟩

/-- The executable D1 over a database; a nearby statement with as many values as placeholders
gets no row, and one with more or fewer throws. -/
def D1.ofDb {α : Type} (db : StaticDb α) : D1 α where
  routes s := .ok (s.run RouteRow.get db.routes)
  stops s := .ok (s.run stopColumn db.stops)
  nearby sql params := if params.length = sql.toList.count '?' then .ok [] else .error bindingError
  trips s := .ok (s.run TripRow.get db.trips)
  stopTimes s := .ok (s.run StopTimeRow.get db.stopTimes)

theorem D1.ofDb_faithful {α : Type} (db : StaticDb α) : (D1.ofDb db).Faithful db :=
  ⟨Select.run_faithful _ _, Select.run_faithful _ _, Select.run_faithful _ _,
    Select.run_faithful _ _⟩

theorem D1.ofDb_checksBindings {α : Type} (db : StaticDb α) : (D1.ofDb db).ChecksBindings :=
  fun _ _ h => ⟨_, if_neg h⟩

/-! ### The handlers -/

section Handlers

variable {α : Type}

/-- `result.results[0]?.feed_date || null` of `SELECT feed_date ... ORDER BY feed_date DESC
LIMIT 1`: the greatest date, unless it is empty. -/
def newestDate (dates : List String) : Option String := dates.max?.filter (· ≠ "")

/-- `getLatestFeedDate(env, provider)`: the newest date of `feed_info`, and when there is none,
the newest date of `routes`. -/
def getLatestFeedDate (db : StaticDb α) (provider : String) : Option String :=
  (newestDate ((db.feedInfo.filter (·.provider_key = provider)).map (·.feed_date))).orElse
    fun _ => newestDate ((db.routes.filter (·.provider_key = provider)).map (·.feed_date))

/-- A reply of the static API: `errorResponse(message, status)`, or
`jsonResponse({ <field>: result.results, count: result.results.length })`. -/
inductive Reply (ρ : Type) where
  | error (status : ℕ) (message : String)
  | rows (field : String) (rows : List ρ)
  deriving Repr

/-- The reply to what D1 answers: the rows, or the router's
`errorResponse(e.message || 'Internal server error', 500)` when it throws. -/
def reply {ρ : Type} (field : String) : Except JsError (List ρ) → Reply ρ
  | .ok rows => .rows field rows
  | .error e => .error 500 (if e.message = "" then "Internal server error" else e.message)

/-- `url.searchParams.get(name) || default`. -/
def paramOr (url : SearchParams) (name default : String) : String :=
  match url.get name with
  | some s => if s = "" then default else s
  | none => default

/-- `if (value) { sql += " AND column = ?"; params.push(...) }`: the condition of a truthy query
parameter. -/
def filterOn {β : Type} (v : Option String) (cond : String → β) : List β :=
  match v with
  | some s => if s = "" then [] else [cond s]
  | none => []

/-- The paged statement: the provider and feed date, the handler's filters, its order, and
`LIMIT ? OFFSET ?` with `parseInt(limit || defaultLimit)` and `parseInt(offset || '0')`. -/
def pagedSelect (table order defaultLimit : String) (filters : SearchParams → List (String × Param))
    (url : SearchParams) (feedDate : String) : Select :=
  ⟨table, [("provider_key", .text url.provider), ("feed_date", .text feedDate)] ++ filters url,
    some order,
    some (.ofInt (parseInt (paramOr url "limit" defaultLimit)),
      .ofInt (parseInt (paramOr url "offset" "0")))⟩

/-- The shape the paged handlers share: `404` without a feed date, and otherwise one page. -/
def handlePaged {ρ : Type} (field table order defaultLimit : String)
    (filters : SearchParams → List (String × Param)) (db : StaticDb α)
    (answer : Select → Except JsError (List ρ)) (url : SearchParams) : Reply ρ :=
  match getLatestFeedDate db url.provider with
  | none => .error 404 "No static data found for provider"
  | some feedDate => reply field (answer (pagedSelect table order defaultLimit filters url feedDate))

/-- `route_id` and `route_type` of `handleRoutes`. -/
def routesFilters (url : SearchParams) : List (String × Param) :=
  filterOn (url.get "route_id") (fun r => ("route_id", .text r)) ++
    filterOn (url.get "route_type") (fun t => ("route_type", .ofInt (parseInt t)))

/-- `handleRoutes(req, env, url)`. -/
def handleRoutes (db : StaticDb α) (d1 : D1 α) (url : SearchParams) : Reply RouteRow :=
  handlePaged "routes" "routes" "route_id" "100" routesFilters db d1.routes url

/-- `trip_id`, or else `route_id`, of `handleTrips`. -/
def tripsFilters (url : SearchParams) : List (String × Param) :=
  if truthy (url.get "trip_id") then filterOn (url.get "trip_id") (fun t => ("trip_id", .text t))
  else filterOn (url.get "route_id") (fun r => ("route_id", .text r))

/-- `handleTrips(req, env, url)`. -/
def handleTrips (db : StaticDb α) (d1 : D1 α) (url : SearchParams) : Reply TripRow :=
  handlePaged "trips" "trips" "trip_id" "100" tripsFilters db d1.trips url

/-- `trip_id` and `stop_id` of `handleStopTimes`. -/
def stopTimesFilters (url : SearchParams) : List (String × Param) :=
  filterOn (url.get "trip_id") (fun t => ("trip_id", .text t)) ++
    filterOn (url.get "stop_id") (fun s => ("stop_id", .text s))

/-- `handleStopTimes(req, env, url)`: `trip_id` is required before anything is read. -/
def handleStopTimes (db : StaticDb α) (d1 : D1 α) (url : SearchParams) : Reply StopTimeRow :=
  if truthy (url.get "trip_id") then
    handlePaged "stop_times" "stop_times" "stop_sequence" "1000" stopTimesFilters db d1.stopTimes url
  else .error 400 "trip_id parameter required"

/-- `handleStops(req, env, url)`: one stop by `stop_id`, the nearby statement when `lat`, `lon`
and `radius` are given, and otherwise a page by `stop_id`.  `parseFloat` is a parameter. -/
def handleStops [DivisionRing α] (parseFloat : String → α) (db : StaticDb α) (d1 : D1 α)
    (url : SearchParams) : Reply (StopRow α) :=
  match getLatestFeedDate db url.provider with
  | none => .error 404 "No static data found for provider"
  | some feedDate =>
    if truthy (url.get "stop_id") then
      reply "stops" (d1.stops ⟨"stops", [("provider_key", .text url.provider),
        ("feed_date", .text feedDate)] ++ filterOn (url.get "stop_id") (fun s => ("stop_id", .text s)),
        none, none⟩)
    else if truthy (url.get "lat") && truthy (url.get "lon") && truthy (url.get "radius") then
      reply "stops" (d1.nearby nearbySql (nearbyParams url.provider feedDate
        (parseFloat (paramOr url "lat" "")) (parseFloat (paramOr url "lon" ""))
        (parseFloat (paramOr url "radius" "")) (parseInt (paramOr url "limit" "100"))
        (parseInt (paramOr url "offset" "0"))))
    else reply "stops" (d1.stops (pagedSelect "stops" "stop_id" "100" (fun _ => []) url feedDate))

/-- Without `stop_id`, and without one of `lat`, `lon` and `radius`, `handleStops` is the paged
handler of `stops` by `stop_id`. -/
theorem handleStops_paged [DivisionRing α] (parseFloat : String → α) (db : StaticDb α) (d1 : D1 α)
    (url : SearchParams) (hid : truthy (url.get "stop_id") = false)
    (hnear :
      (truthy (url.get "lat") && truthy (url.get "lon") && truthy (url.get "radius")) = false) :
    handleStops parseFloat db d1 url =
      handlePaged "stops" "stops" "stop_id" "100" (fun _ => []) db d1.stops url := by
  unfold handleStops handlePaged
  cases getLatestFeedDate db url.provider <;> simp [hid, hnear]

/-- **The nearby search answers `500`.**  Given `lat`, `lon` and `radius` and no `stop_id`, for a
provider with a feed date, `handleStops` binds thirteen values to the eleven placeholders of its
statement; a D1 that counts them throws, and the router answers `500` with the error's message,
whatever the stops table holds. -/
theorem handleStops_nearby_error [DivisionRing α] (parseFloat : String → α) (db : StaticDb α)
    (d1 : D1 α) (hd1 : d1.ChecksBindings) (url : SearchParams) {feedDate : String}
    (hdate : getLatestFeedDate db url.provider = some feedDate)
    (hid : truthy (url.get "stop_id") = false)
    (hnear :
      (truthy (url.get "lat") && truthy (url.get "lon") && truthy (url.get "radius")) = true) :
    ∃ message, handleStops parseFloat db d1 url = .error 500 message := by
  obtain ⟨e, he⟩ := hd1 nearbySql (nearbyParams url.provider feedDate
    (parseFloat (paramOr url "lat" "")) (parseFloat (paramOr url "lon" ""))
    (parseFloat (paramOr url "radius" "")) (parseInt (paramOr url "limit" "100"))
    (parseInt (paramOr url "offset" "0"))) (by rw [nearbyParams_length, nearbySql_placeholders]; decide)
  exact ⟨_, by simp only [handleStops, hdate, hid, hnear, he, reply]; rfl⟩

/-- `parseFloat` on a decimal text: white space, a sign, digits and a fraction; no exponent, and
`0` where JavaScript reads `NaN`. -/
def parseDecimal (s : String) : ℚ :=
  let cs := s.toList.dropWhile isJsSpace
  let (sign, cs) : ℚ × List Char :=
    match cs with
    | '-' :: r => (-1, r)
    | '+' :: r => (1, r)
    | r => (1, r)
  let (i, n) := digitsValue 10 cs 0 0
  match cs.drop n with
  | '.' :: r =>
    let (f, m) := digitsValue 10 r 0 0
    sign * (i + f / 10 ^ m)
  | _ => sign * i

/-- One STM stop on one feed date, at 45.5° N, 73.5° W. -/
def oneStop : StaticDb ℚ where
  feedInfo := [⟨"stm", "20251105"⟩]
  routes := []
  stops := [⟨"stm", "20251105", "s1", 91 / 2, -147 / 2⟩]
  trips := []
  stopTimes := []
  routes_pk := List.nodup_nil
  stops_pk := by unfold PrimaryKey; decide
  trips_pk := List.nodup_nil
  stopTimes_pk := List.nodup_nil

/-- Asked for the stops within 500 m of the one stop, the executable D1 throws and the reply is
the `500`. -/
theorem handleStops_nearby_error_oneStop :
    (D1.ofDb oneStop).ChecksBindings ∧
      getLatestFeedDate oneStop (SearchParams.provider
        [("lat", "45.5"), ("lon", "-73.5"), ("radius", "500")]) = some "20251105" ∧
      truthy (SearchParams.get [("lat", "45.5"), ("lon", "-73.5"), ("radius", "500")]
        "stop_id") = false ∧
      (truthy (SearchParams.get [("lat", "45.5"), ("lon", "-73.5"), ("radius", "500")] "lat") &&
        truthy (SearchParams.get [("lat", "45.5"), ("lon", "-73.5"), ("radius", "500")] "lon") &&
        truthy (SearchParams.get [("lat", "45.5"), ("lon", "-73.5"), ("radius", "500")]
          "radius")) = true ∧
      ∃ message, handleStops parseDecimal oneStop (D1.ofDb oneStop)
        [("lat", "45.5"), ("lon", "-73.5"), ("radius", "500")] = .error 500 message :=
  have hdate : getLatestFeedDate oneStop (SearchParams.provider
      [("lat", "45.5"), ("lon", "-73.5"), ("radius", "500")]) = some "20251105" := by decide
  ⟨D1.ofDb_checksBindings oneStop, hdate, by decide, by decide,
    handleStops_nearby_error parseDecimal oneStop (D1.ofDb oneStop) (D1.ofDb_checksBindings oneStop)
      [("lat", "45.5"), ("lon", "-73.5"), ("radius", "500")] hdate (by decide) (by decide)⟩

end Handlers

/-! ### Paging -/

/-- The same query asking for `limit` rows at `offset`. -/
def pageUrl (url : SearchParams) (limit offset : String) : SearchParams :=
  ("limit", limit) :: ("offset", offset) :: url

section Paging

variable {α ρ : Type} {col : ρ → String → Option Value} {tbl : List ρ}

theorem get_pageUrl (url : SearchParams) (l o : String) {name : String} (hl : name ≠ "limit")
    (ho : name ≠ "offset") : (pageUrl url l o).get name = url.get name := by
  simp [pageUrl, SearchParams.get, List.find?_cons, Ne.symm hl, Ne.symm ho]

theorem provider_pageUrl (url : SearchParams) (l o : String) :
    (pageUrl url l o).provider = url.provider := by
  unfold SearchParams.provider
  rw [get_pageUrl url l o (by decide) (by decide)]

theorem paramOr_pageUrl_limit (url : SearchParams) {l o : String} (hl : l ≠ "") (d : String) :
    paramOr (pageUrl url l o) "limit" d = l := by
  simp [paramOr, pageUrl, SearchParams.get, hl]

theorem paramOr_pageUrl_offset (url : SearchParams) {l o : String} (ho : o ≠ "") (d : String) :
    paramOr (pageUrl url l o) "offset" d = o := by
  simp [paramOr, pageUrl, SearchParams.get, ho]

/-- Rows kept by conditions that fix every column of the primary key but the order column differ
in the order column. -/
theorem sortKey_injOn {pk : List String} (hpk : PrimaryKey col tbl pk)
    {conds : List (String × Param)} {order : String}
    (hcover : ∀ c ∈ pk, c = order ∨ ∃ p, (c, p) ∈ conds) :
    ∀ a ∈ tbl.filter (keepRow col conds), ∀ b ∈ tbl.filter (keepRow col conds),
      sortKey col order a = sortKey col order b → a = b := by
  intro a ha b hb hab
  rw [List.mem_filter] at ha hb
  refine List.inj_on_of_nodup_map hpk ha.1 hb.1 (List.map_congr_left fun c hc => ?_)
  rcases hcover c hc with rfl | ⟨p, hp⟩
  · exact hab
  · exact Param.eq_of_matches (List.all_eq_true.1 ha.2 _ hp) (List.all_eq_true.1 hb.2 _ hp)

/-- A page of a statement ordered by such a key is cut from any sorted order of the kept rows. -/
theorem Select.Answers.eq_page {s : Select} {order : String}
    (hinj : ∀ a ∈ tbl.filter (keepRow col s.conds), ∀ b ∈ tbl.filter (keepRow col s.conds),
      sortKey col order a = sortKey col order b → a = b)
    {rows : List ρ} (h : s.Answers col tbl rows) (hs : s.order = some order) {l o : ℤ}
    (hpage : s.page = some (.int l, .int o)) {ordered : List ρ}
    (hperm : ordered.Perm (tbl.filter (keepRow col s.conds)))
    (hsorted : ordered.Sorted fun a b => sortKey col order a ≤ sortKey col order b) :
    rows = limitOffset l o ordered := by
  obtain ⟨ord', hp', hs', hr'⟩ := h
  rw [hpage] at hr'
  rw [hr', eq_of_perm_of_sorted_key (fun a ha b hb => hinj a (hp'.subset ha) b (hp'.subset hb))
    (hp'.trans hperm.symm) (hs' order hs) hsorted]

theorem limitOffset_natCast (n m : ℕ) (rows : List ρ) :
    limitOffset (n : ℤ) (m : ℤ) rows = (rows.drop m).take n := by
  simp [limitOffset]

/-- **Paging through a paged handler.**  Let D1 answer a table as SQL says, and let the
handler's `WHERE` fix every column of the table's primary key but its `ORDER BY` column, with no
`NaN` bound.  Ask the same query `k > 0` times with `limit` a text `parseInt` reads as `n` and
`offset` texts it reads as `0, n, ..., (k - 1) n`.  If every page is answered, the provider has a
latest feed date, and the pages, one after another, are the first `k n` rows of the rows the
statement keeps for it, in the order of the key: each such row is on one page at most, and on
one when `k n` reaches their number. -/
theorem handlePaged_pages (field table order defaultLimit : String)
    (filters : SearchParams → List (String × Param)) (db : StaticDb α)
    (answer : Select → Except JsError (List ρ)) (hfaith : Faithful col tbl answer)
    {pk : List String} (hpk : PrimaryKey col tbl pk) (url : SearchParams)
    (hcover : ∀ c ∈ pk, c = order ∨ c = "provider_key" ∨ c = "feed_date" ∨ ∃ p, (c, p) ∈ filters url)
    (hfilters : ∀ l o, filters (pageUrl url l o) = filters url)
    (hbound : Param.nan ∉ (filters url).map (·.2))
    (limitText : String) (offsetText : ℕ → String) (n k : ℕ) (hk : 0 < k)
    (hl : parseInt limitText = some (n : ℤ))
    (ho : ∀ i < k, parseInt (offsetText i) = some ((i * n : ℕ) : ℤ))
    (rows : ℕ → List ρ)
    (hrep : ∀ i < k, handlePaged field table order defaultLimit filters db answer
      (pageUrl url limitText (offsetText i)) = .rows field (rows i)) :
    ∃ (feedDate : String) (ordered : List ρ), getLatestFeedDate db url.provider = some feedDate ∧
      ordered.Perm (tbl.filter (keepRow col
        ([("provider_key", .text url.provider), ("feed_date", .text feedDate)] ++ filters url))) ∧
      ordered.Sorted (fun a b => sortKey col order a ≤ sortKey col order b) ∧
      (List.range k).flatMap rows = ordered.take (k * n) := by
  obtain ⟨feedDate, hfd⟩ : ∃ d, getLatestFeedDate db url.provider = some d := by
    have h := hrep 0 hk
    unfold handlePaged at h
    rw [provider_pageUrl] at h
    cases hd : getLatestFeedDate db url.provider with
    | none => rw [hd] at h; cases h
    | some d => exact ⟨d, rfl⟩
  -- the statement of page `i`
  let page (i : ℕ) : Select :=
    ⟨table, [("provider_key", .text url.provider), ("feed_date", .text feedDate)] ++ filters url,
      some order, some (.int n, .int ↑(i * n))⟩
  have hnum : ∀ {t : String} {m : ℤ}, parseInt t = some m → t ≠ "" := by
    rintro t m h rfl
    cases h
  have hsel : ∀ i < k, pagedSelect table order defaultLimit filters
      (pageUrl url limitText (offsetText i)) feedDate = page i := by
    intro i hi
    simp only [pagedSelect, provider_pageUrl, hfilters, paramOr_pageUrl_limit url (hnum hl),
      paramOr_pageUrl_offset url (hnum (ho i hi)), hl, ho i hi, Param.ofInt]
  have hans : ∀ i < k, answer (page i) = .ok (rows i) := by
    intro i hi
    have h := hrep i hi
    simp only [handlePaged, provider_pageUrl, hfd, hsel i hi] at h
    cases hx : answer (page i) with
    | ok r => rw [hx] at h; cases h; rfl
    | error e => rw [hx] at h; cases h
  have hbnd : ∀ i, (page i).Bound := fun i => by
    simpa [Select.Bound, Select.params, page] using hbound
  have hinj : ∀ a ∈ tbl.filter (keepRow col (page 0).conds), ∀ b ∈ tbl.filter (keepRow col (page 0).conds),
      sortKey col order a = sortKey col order b → a = b := sortKey_injOn hpk fun c hc => by
    rcases hcover c hc with h | rfl | rfl | ⟨p, hp⟩
    · exact .inl h
    · exact .inr ⟨_, List.mem_append_left _ (List.mem_cons_self _ _)⟩
    · exact .inr ⟨_, List.mem_append_left _ (List.mem_cons_of_mem _ (List.mem_singleton_self _))⟩
    · exact .inr ⟨p, List.mem_append_right _ hp⟩
  obtain ⟨ordered, hperm, hsorted, -⟩ := hfaith _ _ (hbnd 0) (hans 0 hk)
  refine ⟨feedDate, ordered, hfd, hperm, hsorted order rfl, ?_⟩
  rw [← flatMap_pages ordered n k]
  refine List.flatMap_congr fun i hi => ?_
  rw [Select.Answers.eq_page (s := page i) hinj (hfaith _ _ (hbnd i) (hans i (List.mem_range.1 hi)))
    rfl rfl hperm (hsorted order rfl), limitOffset_natCast]

/-- Two routes of STM, on one feed date. -/
def twoRoutes : StaticDb ℚ where
  feedInfo := [⟨"stm", "20251105"⟩]
  routes := [⟨"stm", "20251105", "10", some 3⟩, ⟨"stm", "20251105", "24", some 3⟩]
  stops := []
  trips := []
  stopTimes := []
  routes_pk := by unfold PrimaryKey; decide
  stops_pk := List.nodup_nil
  trips_pk := List.nodup_nil
  stopTimes_pk := List.nodup_nil

/-- Two pages of one route each, from the executable D1. -/
theorem handlePaged_pages_twoRoutes :
    ∃ (feedDate : String) (ordered : List RouteRow),
      getLatestFeedDate twoRoutes (SearchParams.provider []) = some feedDate ∧
      ordered.Perm (twoRoutes.routes.filter (keepRow RouteRow.get
        ([("provider_key", .text (SearchParams.provider [])), ("feed_date", .text feedDate)] ++
          routesFilters []))) ∧
      ordered.Sorted (fun a b => sortKey RouteRow.get "route_id" a ≤ sortKey RouteRow.get "route_id" b) ∧
      (List.range 2).flatMap (fun i => (pagedSelect "routes" "route_id" "100" routesFilters
        (pageUrl [] "1" (toString i)) "20251105").run RouteRow.get twoRoutes.routes) =
          ordered.take (2 * 1) :=
  handlePaged_pages "routes" "routes" "route_id" "100" routesFilters twoRoutes
    (D1.ofDb twoRoutes).routes (D1.ofDb_faithful twoRoutes).routes twoRoutes.routes_pk []
    (by simp) (fun _ _ => rfl) (by simp [routesFilters, filterOn, SearchParams.get]) "1"
    (fun i => toString i) 1 2 (by decide) (by decide) (by decide) _ fun _ _ => rfl

/-! ### The four paged handlers -/

theorem filterOn_text_bound (v : Option String) (column : String) :
    Param.nan ∉ (filterOn v fun s => (column, Param.text s)).map (·.2) := by
  unfold filterOn
  rcases v with _ | s
  · simp
  · by_cases hs : s = "" <;> simp [hs]

/-- Paging through `/api/v1/static/routes`, a `route_type` given being a number. -/
theorem handleRoutes_pages (db : StaticDb α) (d1 : D1 α) (hd1 : d1.Faithful db)
    (url : SearchParams)
    (htype : ∀ t, url.get "route_type" = some t → t ≠ "" → ∃ m, parseInt t = some m)
    (limitText : String) (offsetText : ℕ → String) (n k : ℕ) (hk : 0 < k)
    (hl : parseInt limitText = some (n : ℤ))
    (ho : ∀ i < k, parseInt (offsetText i) = some ((i * n : ℕ) : ℤ)) (rows : ℕ → List RouteRow)
    (hrep : ∀ i < k, handleRoutes db d1 (pageUrl url limitText (offsetText i)) =
      .rows "routes" (rows i)) :
    ∃ (feedDate : String) (ordered : List RouteRow),
      getLatestFeedDate db url.provider = some feedDate ∧
      ordered.Perm (db.routes.filter (keepRow RouteRow.get
        ([("provider_key", .text url.provider), ("feed_date", .text feedDate)] ++
          routesFilters url))) ∧
      ordered.Sorted (fun a b =>
        sortKey RouteRow.get "route_id" a ≤ sortKey RouteRow.get "route_id" b) ∧
      (List.range k).flatMap rows = ordered.take (k * n) := by
  have hbound : Param.nan ∉ (routesFilters url).map (·.2) := by
    unfold routesFilters
    rw [List.map_append, List.mem_append, not_or]
    refine ⟨filterOn_text_bound _ _, ?_⟩
    unfold filterOn
    rcases ht : url.get "route_type" with _ | t
    · simp
    · by_cases h : t = ""
      · simp [h]
      · obtain ⟨m, hm⟩ := htype t ht h
        simp [h, hm, Param.ofInt]
  exact handlePaged_pages _ _ _ _ _ db _ hd1.routes db.routes_pk url (by simp)
    (fun l o => by simp [routesFilters, get_pageUrl])
    hbound limitText offsetText n k hk hl ho rows hrep

/-- Paging through `/api/v1/static/trips`. -/
theorem handleTrips_pages (db : StaticDb α) (d1 : D1 α) (hd1 : d1.Faithful db)
    (url : SearchParams) (limitText : String) (offsetText : ℕ → String) (n k : ℕ) (hk : 0 < k)
    (hl : parseInt limitText = some (n : ℤ))
    (ho : ∀ i < k, parseInt (offsetText i) = some ((i * n : ℕ) : ℤ)) (rows : ℕ → List TripRow)
    (hrep : ∀ i < k, handleTrips db d1 (pageUrl url limitText (offsetText i)) =
      .rows "trips" (rows i)) :
    ∃ (feedDate : String) (ordered : List TripRow),
      getLatestFeedDate db url.provider = some feedDate ∧
      ordered.Perm (db.trips.filter (keepRow TripRow.get
        ([("provider_key", .text url.provider), ("feed_date", .text feedDate)] ++
          tripsFilters url))) ∧
      ordered.Sorted (fun a b =>
        sortKey TripRow.get "trip_id" a ≤ sortKey TripRow.get "trip_id" b) ∧
      (List.range k).flatMap rows = ordered.take (k * n) := by
  have hbound : Param.nan ∉ (tripsFilters url).map (·.2) := by
    unfold tripsFilters
    split
    · exact filterOn_text_bound _ _
    · exact filterOn_text_bound _ _
  exact handlePaged_pages _ _ _ _ _ db _ hd1.trips db.trips_pk url (by simp)
    (fun l o => by simp [tripsFilters, get_pageUrl])
    hbound limitText offsetText n k hk hl ho rows hrep

/-- Paging through `/api/v1/static/stop-times`: the pages are answered only with a `trip_id`,
which with the provider and the feed date leaves `stop_sequence` free. -/
theorem handleStopTimes_pages (db : StaticDb α) (d1 : D1 α) (hd1 : d1.Faithful db)
    (url : SearchParams) (limitText : String) (offsetText : ℕ → String) (n k : ℕ) (hk : 0 < k)
    (hl : parseInt limitText = some (n : ℤ))
    (ho : ∀ i < k, parseInt (offsetText i) = some ((i * n : ℕ) : ℤ)) (rows : ℕ → List StopTimeRow)
    (hrep : ∀ i < k, handleStopTimes db d1 (pageUrl url limitText (offsetText i)) =
      .rows "stop_times" (rows i)) :
    ∃ (feedDate : String) (ordered : List StopTimeRow),
      getLatestFeedDate db url.provider = some feedDate ∧
      ordered.Perm (db.stopTimes.filter (keepRow StopTimeRow.get
        ([("provider_key", .text url.provider), ("feed_date", .text feedDate)] ++
          stopTimesFilters url))) ∧
      ordered.Sorted (fun a b =>
        sortKey StopTimeRow.get "stop_sequence" a ≤ sortKey StopTimeRow.get "stop_sequence" b) ∧
      (List.range k).flatMap rows = ordered.take (k * n) := by
  have hget : ∀ l o, (pageUrl url l o).get "trip_id" = url.get "trip_id" := fun l o =>
    get_pageUrl url l o (by decide) (by decide)
  -- a page without `trip_id` is the `400`
  obtain ⟨t, ht, hne⟩ : ∃ t, url.get "trip_id" = some t ∧ t ≠ "" := by
    have h := hrep 0 hk
    unfold handleStopTimes at h
    rw [hget] at h
    rcases ht : url.get "trip_id" with _ | t
    · simp [ht, truthy] at h
    · by_cases hne : t = ""
      · simp [ht, hne, truthy] at h
      · exact ⟨t, rfl, hne⟩
  have htruthy : truthy (url.get "trip_id") = true := by simp [ht, truthy, hne]
  have hbound : Param.nan ∉ (stopTimesFilters url).map (·.2) := by
    unfold stopTimesFilters
    rw [List.map_append, List.mem_append, not_or]
    exact ⟨filterOn_text_bound _ _, filterOn_text_bound _ _⟩
  refine handlePaged_pages "stop_times" "stop_times" "stop_sequence" "1000" stopTimesFilters db _
    hd1.stopTimes db.stopTimes_pk url (fun c hc => ?_)
    (fun l o => by simp [stopTimesFilters, get_pageUrl])
    hbound limitText offsetText n k hk hl ho rows fun i hi => ?_
  · simp only [List.mem_cons, List.mem_singleton, List.not_mem_nil, or_false] at hc
    rcases hc with rfl | rfl | rfl | rfl
    · exact .inr (.inl rfl)
    · exact .inr (.inr (.inl rfl))
    · refine .inr (.inr (.inr ⟨.text t, List.mem_append_left _ ?_⟩))
      simp [filterOn, ht, hne]
    · exact .inl rfl
  · have h := hrep i hi
    rwa [handleStopTimes, hget, htruthy, if_pos rfl] at h

/-- Paging through `/api/v1/static/stops` without `stop_id` and without the nearby search. -/
theorem handleStops_pages [DivisionRing α] (parseFloat : String → α) (db : StaticDb α) (d1 : D1 α)
    (hd1 : d1.Faithful db) (url : SearchParams) (hid : truthy (url.get "stop_id") = false)
    (hnear :
      (truthy (url.get "lat") && truthy (url.get "lon") && truthy (url.get "radius")) = false)
    (limitText : String) (offsetText : ℕ → String) (n k : ℕ) (hk : 0 < k)
    (hl : parseInt limitText = some (n : ℤ))
    (ho : ∀ i < k, parseInt (offsetText i) = some ((i * n : ℕ) : ℤ)) (rows : ℕ → List (StopRow α))
    (hrep : ∀ i < k, handleStops parseFloat db d1 (pageUrl url limitText (offsetText i)) =
      .rows "stops" (rows i)) :
    ∃ (feedDate : String) (ordered : List (StopRow α)),
      getLatestFeedDate db url.provider = some feedDate ∧
      ordered.Perm (db.stops.filter (keepRow stopColumn
        [("provider_key", .text url.provider), ("feed_date", .text feedDate)])) ∧
      ordered.Sorted (fun a b => sortKey stopColumn "stop_id" a ≤ sortKey stopColumn "stop_id" b) ∧
      (List.range k).flatMap rows = ordered.take (k * n) := by
  have hget : ∀ l o name, name ≠ "limit" → name ≠ "offset" →
      (pageUrl url l o).get name = url.get name := fun l o _ => get_pageUrl url l o
  simpa using handlePaged_pages "stops" "stops" "stop_id" "100" (fun _ => []) db _ hd1.stops
    db.stops_pk url
    (by simp) (fun _ _ => rfl) (by simp) limitText offsetText n k hk hl ho rows fun i hi => by
      rw [← hrep i hi, handleStops_paged]
      · rw [hget _ _ _ (by decide) (by decide), hid]
      · rw [hget _ _ _ (by decide) (by decide), hget _ _ _ (by decide) (by decide),
          hget _ _ _ (by decide) (by decide), hnear]

end Paging

end StaticApi

end Transit
