import Mathlib

/-!
# Aggregate tables

Migration `002_create_rt_aggregation_tables.sql` declares four aggregate tables,
`rt_delays_hourly`, `rt_delays_daily`, `rt_positions_hourly` and `rt_positions_daily`.  Each has
a composite `PRIMARY KEY` of `provider_key`, `date`, `hour` for the hourly tables, and three
identifier columns.  Only `provider_key`, `date` and `hour` are declared `NOT NULL`.

D1 is SQLite, and SQLite keeps a legacy rule: a `PRIMARY KEY` of a table with a rowid does not
imply `NOT NULL`, and its uniqueness index treats every `NULL` as distinct from every value,
`NULL` included.  A row with a `NULL` identifier therefore conflicts with no row, and an
upsert of it always appends.  Upserting the same batch twice then stores such a row twice.

The repository has no writer of these tables; the upsert is modelled from the spec, with
SQLite's `INSERT OR REPLACE` semantics.

## Main definitions

* `Value`, `Row`, `Column`, `Schema` — rows of named SQLite values, and table declarations.
* `rtDelaysHourly`, `rtDelaysDaily`, `rtPositionsHourly`, `rtPositionsDaily` — the migration.
* `Schema.conflicts`, `upsert`, `upsertAll` — `INSERT OR REPLACE` by primary key.

## Main results

* `upsertAll_cases` — an upsert aborts on its batch alone, and otherwise leaves `replaceAll`.
* `replaceAll_eq` — a batch replaces the rows it conflicts with and appends what it leaves alone.
* `upsertAll_idempotent` — upserting a batch of keys free of `NULL` twice is upserting it once.
* `upsertAll_distinctKeys` — such upserts keep the keys of a table distinct.
* `upsert_nullKey` — a row with a `NULL` key column is appended, whatever the table holds.
* `upsertAll_twice_nullRoute` — in each of the four tables a batch with a `NULL` `route_id`,
  upserted twice, leaves two rows with the same key.
-/

namespace Transit

/-! ### Tables -/

/-- A SQLite value of the aggregate tables' columns (`TEXT`, `INTEGER`, `REAL`, or `NULL`). -/
inductive Value where
  | null
  | integer (i : ℤ)
  | real (x : ℚ)
  | text (s : String)
  deriving DecidableEq, Repr

/-- A row, as the named values of an `INSERT`; a column it does not name is `NULL`. -/
abbrev Row := List (String × Value)

/-- The value of column `c` in row `r`. -/
def Row.get (r : Row) (c : String) : Value := (r.lookup c).getD .null

/-- A column declaration: its name, and whether it is declared `NOT NULL`.  The declared types
only set affinities, which no conflict depends on. -/
structure Column where
  name : String
  notNull : Bool
  deriving DecidableEq, Repr

/-- A `CREATE TABLE` with a composite `PRIMARY KEY`. -/
structure Schema where
  name : String
  columns : List Column
  primaryKey : List String
  deriving DecidableEq, Repr

/-- A nullable column. -/
def Column.nullable (name : String) : Column := ⟨name, false⟩

/-- A `NOT NULL` column. -/
def Column.required (name : String) : Column := ⟨name, true⟩

/-- `CREATE TABLE rt_delays_hourly`. -/
def rtDelaysHourly : Schema where
  name := "rt_delays_hourly"
  columns := [.required "provider_key", .required "date", .required "hour",
    .nullable "route_id", .nullable "stop_id", .nullable "trip_id",
    .nullable "avg_arrival_delay", .nullable "max_arrival_delay", .nullable "min_arrival_delay",
    .nullable "avg_departure_delay", .nullable "max_departure_delay",
    .nullable "min_departure_delay", .nullable "trip_count", .nullable "route_count",
    .nullable "stop_count"]
  primaryKey := ["provider_key", "date", "hour", "route_id", "stop_id", "trip_id"]

/-- `CREATE TABLE rt_delays_daily`. -/
def rtDelaysDaily : Schema where
  name := "rt_delays_daily"
  columns := [.required "provider_key", .required "date",
    .nullable "route_id", .nullable "stop_id", .nullable "trip_id",
    .nullable "avg_arrival_delay", .nullable "max_arrival_delay", .nullable "min_arrival_delay",
    .nullable "avg_departure_delay", .nullable "max_departure_delay",
    .nullable "min_departure_delay", .nullable "trip_count", .nullable "route_count",
    .nullable "stop_count"]
  primaryKey := ["provider_key", "date", "route_id", "stop_id", "trip_id"]

/-- `CREATE TABLE rt_positions_hourly`. -/
def rtPositionsHourly : Schema where
  name := "rt_positions_hourly"
  columns := [.required "provider_key", .required "date", .required "hour",
    .nullable "route_id", .nullable "vehicle_id", .nullable "trip_id",
    .nullable "avg_latitude", .nullable "avg_longitude", .nullable "avg_bearing",
    .nullable "avg_speed", .nullable "max_speed", .nullable "vehicle_count",
    .nullable "route_count"]
  primaryKey := ["provider_key", "date", "hour", "route_id", "vehicle_id", "trip_id"]

/-- `CREATE TABLE rt_positions_daily`. -/
def rtPositionsDaily : Schema where
  name := "rt_positions_daily"
  columns := [.required "provider_key", .required "date",
    .nullable "route_id", .nullable "vehicle_id", .nullable "trip_id",
    .nullable "avg_latitude", .nullable "avg_longitude", .nullable "avg_bearing",
    .nullable "avg_speed", .nullable "max_speed", .nullable "vehicle_count",
    .nullable "route_count"]
  primaryKey := ["provider_key", "date", "route_id", "vehicle_id", "trip_id"]

/-- The four aggregate tables of the migration. -/
def aggregateSchemas : List Schema :=
  [rtDelaysHourly, rtDelaysDaily, rtPositionsHourly, rtPositionsDaily]

/-! ### Upsert by primary key -/

/-- The primary key of a row. -/
def Schema.key (s : Schema) (r : Row) : List Value := s.primaryKey.map r.get

/-- Whether a key has no `NULL` column. -/
def KeyNonNull (k : List Value) : Bool := k.all (· != .null)

/-- The uniqueness index of the primary key: a new row `r` conflicts with a stored row `t` when
their keys are equal column by column, and no column is `NULL`, which equals nothing.  Values
are compared as given, without the conversions of the columns' type affinity: a writer that
binds each column a value of its declared type gives none to make. -/
def Schema.conflicts (s : Schema) (r t : Row) : Bool :=
  KeyNonNull (s.key r) && s.key r == s.key t

/-- The first `NOT NULL` column that `r` leaves `NULL`, as SQLite reports it. -/
def Schema.notNullError (s : Schema) (r : Row) : Option String :=
  (s.columns.find? fun c => c.notNull && r.get c.name == .null).map fun c =>
    "NOT NULL constraint failed: " ++ s.name ++ "." ++ c.name

/-- The rows an upsert of `r` leaves when it does not abort: the rows it conflicts with are
deleted, and it is inserted. -/
def replaceRow (s : Schema) (table : List Row) (r : Row) : List Row :=
  table.filter (fun t => !s.conflicts r t) ++ [r]

/-- Modelled from the spec: the writer of the aggregate tables is not in the repository; this is
its upsert by primary key, `INSERT OR REPLACE` of row `r`.  A `NOT NULL` column left `NULL`,
having no default, aborts the statement; otherwise every stored row the new row conflicts with
is deleted and the row is inserted. -/
def upsert (s : Schema) (table : List Row) (r : Row) : Except String (List Row) :=
  match s.notNullError r with
  | some e => .error e
  | none => .ok (replaceRow s table r)

/-- Modelled from the spec: the writer of the aggregate tables is not in the repository; this is
the upserts of a batch, in order, the first error aborting. -/
def upsertAll (s : Schema) (table : List Row) (batch : List Row) : Except String (List Row) :=
  batch.foldlM (upsert s) table

/-- The rows the upserts of a batch leave when none aborts. -/
def replaceAll (s : Schema) (table : List Row) (batch : List Row) : List Row :=
  batch.foldl (replaceRow s) table

/-- The keys of a table's rows are distinct, `NULL` taken to equal `NULL`. -/
def DistinctKeys (s : Schema) (table : List Row) : Prop :=
  table.Pairwise fun a b => s.key a ≠ s.key b

/-- No row of `batch` conflicts with `t`. -/
def Schema.clear (s : Schema) (batch : List Row) : Row → Bool :=
  fun t => batch.all fun r => !s.conflicts r t

/-- Whether a batch passes the `NOT NULL` checks. -/
def Admitted (s : Schema) (batch : List Row) : Prop := ∀ r ∈ batch, s.notNullError r = none

section Upsert

variable (s : Schema)

@[simp] theorem upsertAll_nil (table : List Row) : upsertAll s table [] = .ok table := rfl

theorem upsertAll_cons (table : List Row) (r : Row) (batch : List Row) :
    upsertAll s table (r :: batch) = upsert s table r >>= fun t => upsertAll s t batch := rfl

@[simp] theorem replaceAll_nil (table : List Row) : replaceAll s table [] = table := rfl

@[simp] theorem replaceAll_cons (table : List Row) (r : Row) (batch : List Row) :
    replaceAll s table (r :: batch) = replaceAll s (replaceRow s table r) batch := rfl

@[simp] theorem clear_nil : s.clear [] = fun _ => true := rfl

@[simp] theorem clear_cons (r : Row) (batch : List Row) :
    s.clear (r :: batch) = fun t => !s.conflicts r t && s.clear batch t := rfl

theorem upsert_ok {table : List Row} {r : Row} (h : s.notNullError r = none) :
    upsert s table r = .ok (replaceRow s table r) := by
  simp [upsert, h]

theorem upsert_error {table : List Row} {r : Row} {e : String} (h : s.notNullError r = some e) :
    upsert s table r = .error e := by
  simp [upsert, h]

/-- **An upsert aborts on the batch, never on the table**: an admitted batch leaves
`replaceAll`, and any other aborts with one error from every table. -/
theorem upsertAll_cases :
    ∀ batch : List Row,
      (Admitted s batch ∧ ∀ table, upsertAll s table batch = .ok (replaceAll s table batch)) ∨
      ∃ e, ∀ table, upsertAll s table batch = .error e
  | [] => .inl ⟨fun _ h => (nomatch h), fun _ => rfl⟩
  | r :: batch => by
    cases hr : s.notNullError r with
    | some e => exact .inr ⟨e, fun table => by rw [upsertAll_cons, upsert_error s hr]; rfl⟩
    | none =>
      rcases upsertAll_cases batch with ⟨hb, heq⟩ | ⟨e, he⟩
      · refine .inl ⟨fun r' h' => ?_, fun table => ?_⟩
        · rcases List.mem_cons.1 h' with rfl | h'
          exacts [hr, hb r' h']
        · rw [upsertAll_cons, upsert_ok s hr]
          exact heq _
      · exact .inr ⟨e, fun table => by rw [upsertAll_cons, upsert_ok s hr]; exact he _⟩

/-- A row with a `NULL` key column conflicts with no row. -/
theorem conflicts_of_null {r : Row} (hr : KeyNonNull (s.key r) = false) (t : Row) :
    s.conflicts r t = false := by
  simp [Schema.conflicts, hr]

/-- **A row with a `NULL` key column is appended**, whatever the table holds. -/
theorem upsert_nullKey {table : List Row} {r : Row} (h : s.notNullError r = none)
    (hr : KeyNonNull (s.key r) = false) : upsert s table r = .ok (table ++ [r]) := by
  rw [upsert_ok s h, replaceRow, List.filter_eq_self.2 fun t _ => by simp [conflicts_of_null s hr]]

end Upsert

/-! ### Batches with keys free of `NULL` -/

section NonNull

variable (s : Schema)

theorem conflicts_self {r : Row} (hr : KeyNonNull (s.key r)) : s.conflicts r r := by
  simp [Schema.conflicts, hr]

/-- The rows a batch leaves are the table's and the batch's. -/
theorem mem_replaceAll :
    ∀ (batch table : List Row) {t : Row}, t ∈ replaceAll s table batch → t ∈ table ∨ t ∈ batch
  | [], _, _, ht => .inl ht
  | r :: batch, table, t, ht => by
    rcases mem_replaceAll batch _ ht with h | h
    · simp only [replaceRow, List.mem_append, List.mem_filter, List.mem_singleton] at h
      rcases h with ⟨h, -⟩ | rfl
      exacts [.inl h, .inr (List.mem_cons_self _ _)]
    · exact .inr (List.mem_cons_of_mem _ h)

/-- **A batch replaces the rows it conflicts with**: it keeps the stored rows no row of the
batch conflicts with, and then holds what it would leave in an empty table. -/
theorem replaceAll_eq :
    ∀ (batch table : List Row),
      replaceAll s table batch = table.filter (s.clear batch) ++ replaceAll s [] batch
  | [], table => by simp
  | r :: batch, table => by
    rw [replaceAll_cons, replaceAll_cons, replaceAll_eq batch,
      replaceAll_eq batch (replaceRow s [] r)]
    simp only [replaceRow, List.filter_append, List.filter_nil, List.nil_append, List.filter_filter,
      List.append_assoc, clear_cons, Bool.and_comm]

/-- A batch of keys free of `NULL` clears none of the rows it leaves. -/
theorem filter_clear_replaceAll {batch : List Row} (hk : ∀ r ∈ batch, KeyNonNull (s.key r)) :
    (replaceAll s [] batch).filter (s.clear batch) = [] := by
  refine List.filter_eq_nil_iff.2 fun t ht => ?_
  rcases mem_replaceAll s batch [] ht with h | h
  · exact absurd h (List.not_mem_nil _)
  · simp only [Schema.clear, List.all_eq_true, Bool.not_eq_true', not_forall, Bool.not_eq_false]
    exact ⟨t, h, by simpa using conflicts_self s (hk t h)⟩

/-- **Upserting a batch of keys free of `NULL` is idempotent**, on every table: the second run
leaves the table of the first, and an aborted run aborts again with the same error. -/
theorem upsertAll_idempotent (table batch : List Row) (hk : ∀ r ∈ batch, KeyNonNull (s.key r)) :
    (upsertAll s table batch >>= fun t => upsertAll s t batch) = upsertAll s table batch := by
  rcases upsertAll_cases s batch with ⟨-, heq⟩ | ⟨e, he⟩
  · rw [heq]
    show upsertAll s (replaceAll s table batch) batch = _
    rw [heq, replaceAll_eq s batch (replaceAll s table batch), replaceAll_eq s batch table,
      List.filter_append]
    simp only [List.filter_filter, Bool.and_self, filter_clear_replaceAll s hk, List.append_nil]
  · rw [he]
    rfl

/-- An upsert of a row with a key free of `NULL` keeps the keys distinct. -/
theorem DistinctKeys.replaceRow {table : List Row} (h : DistinctKeys s table) {r : Row}
    (hr : KeyNonNull (s.key r)) : DistinctKeys s (replaceRow s table r) := by
  refine List.pairwise_append.2 ⟨h.sublist (List.filter_sublist _), List.pairwise_singleton _ _,
    fun a ha b hb => ?_⟩
  rw [List.mem_singleton.1 hb]
  have := (List.mem_filter.1 ha).2
  simp only [Schema.conflicts, hr, Bool.true_and, Bool.not_eq_true', beq_eq_false_iff_ne] at this
  exact Ne.symm this

/-- A batch of keys free of `NULL` keeps the keys distinct, row by row. -/
theorem DistinctKeys.replaceAll {table : List Row} (h : DistinctKeys s table) :
    ∀ {batch : List Row}, (∀ r ∈ batch, KeyNonNull (s.key r)) →
      DistinctKeys s (replaceAll s table batch)
  | [], _ => h
  | r :: _, hk => (h.replaceRow s (hk r (List.mem_cons_self _ _))).replaceAll
      fun r' h' => hk r' (List.mem_cons_of_mem _ h')

/-- **Upserts of keys free of `NULL` keep the keys distinct**: from a table whose rows have
distinct keys, every table a batch of such rows leaves has distinct keys too. -/
theorem upsertAll_distinctKeys {table batch result : List Row} (h : DistinctKeys s table)
    (hk : ∀ r ∈ batch, KeyNonNull (s.key r)) (he : upsertAll s table batch = .ok result) :
    DistinctKeys s result := by
  rcases upsertAll_cases s batch with ⟨-, heq⟩ | ⟨e, he'⟩
  · rw [heq] at he
    cases he
    exact h.replaceAll s hk
  · rw [he'] at he
    cases he

end NonNull

/-- The row of `stm` for route 51 at stop 52 on trip 53, at 7:00 on 2 November 2025. -/
def keyedRow : Row :=
  [("provider_key", .text "stm"), ("date", .text "2025-11-02"), ("hour", .integer 7),
    ("route_id", .text "51"), ("stop_id", .text "52"), ("trip_id", .text "53"),
    ("trip_count", .integer 4)]

theorem upsertAll_idempotent_keyedRow :
    (∀ r ∈ [keyedRow, keyedRow], KeyNonNull (rtDelaysHourly.key r)) ∧
      (upsertAll rtDelaysHourly [] [keyedRow, keyedRow] >>= fun t =>
          upsertAll rtDelaysHourly t [keyedRow, keyedRow]) =
        upsertAll rtDelaysHourly [] [keyedRow, keyedRow] :=
  have hk : ∀ r ∈ [keyedRow, keyedRow], KeyNonNull (rtDelaysHourly.key r) := by decide
  ⟨hk, upsertAll_idempotent rtDelaysHourly [] _ hk⟩

theorem upsertAll_distinctKeys_keyedRow :
    DistinctKeys rtDelaysHourly [] ∧ (∀ r ∈ [keyedRow], KeyNonNull (rtDelaysHourly.key r)) ∧
      upsertAll rtDelaysHourly [] [keyedRow] = .ok [keyedRow] ∧
      DistinctKeys rtDelaysHourly [keyedRow] :=
  have h₀ : DistinctKeys rtDelaysHourly [] := List.Pairwise.nil
  have hk : ∀ r ∈ [keyedRow], KeyNonNull (rtDelaysHourly.key r) := by decide
  have he : upsertAll rtDelaysHourly [] [keyedRow] = .ok [keyedRow] := rfl
  ⟨h₀, hk, he, upsertAll_distinctKeys rtDelaysHourly h₀ hk he⟩

/-! ### Keys with `NULL` -/

/-- The row of `stm` for 2 November 2025, at hour 7 in the hourly tables, that names no
route, stop, vehicle or trip. -/
def nullRouteRow (s : Schema) : Row :=
  [("provider_key", .text "stm"), ("date", .text "2025-11-02")] ++
    if "hour" ∈ s.primaryKey then [("hour", .integer 7)] else []

/-- **The aggregate upserts are not idempotent**: in each of the four tables, whatever it holds,
the batch of one row with a `NULL` `route_id` is appended once when upserted once, and twice,
leaving two rows with the same key, when upserted twice. -/
theorem upsertAll_twice_nullRoute :
    ∀ s ∈ aggregateSchemas, ∀ table : List Row,
      upsertAll s table [nullRouteRow s] = .ok (table ++ [nullRouteRow s]) ∧
        (upsertAll s table [nullRouteRow s] >>= fun t => upsertAll s t [nullRouteRow s]) =
          .ok (table ++ [nullRouteRow s, nullRouteRow s]) := by
  intro s hs table
  have h : s.notNullError (nullRouteRow s) = none ∧
      KeyNonNull (s.key (nullRouteRow s)) = false := by
    simp only [aggregateSchemas, List.mem_cons, List.mem_singleton, List.not_mem_nil,
      or_false] at hs
    rcases hs with rfl | rfl | rfl | rfl <;> decide
  have h₁ : ∀ t, upsertAll s t [nullRouteRow s] = .ok (t ++ [nullRouteRow s]) := fun t => by
    rw [upsertAll_cons, upsert_nullKey s h.1 h.2]
    rfl
  refine ⟨h₁ table, ?_⟩
  rw [h₁]
  show upsertAll s (table ++ [nullRouteRow s]) [nullRouteRow s] = _
  rw [h₁, List.append_assoc]
  rfl

theorem upsertAll_twice_nullRoute_empty :
    rtPositionsDaily ∈ aggregateSchemas ∧
      upsertAll rtPositionsDaily [] [nullRouteRow rtPositionsDaily] =
        .ok ([] ++ [nullRouteRow rtPositionsDaily]) ∧
      (upsertAll rtPositionsDaily [] [nullRouteRow rtPositionsDaily] >>= fun t =>
          upsertAll rtPositionsDaily t [nullRouteRow rtPositionsDaily]) =
        .ok ([] ++ [nullRouteRow rtPositionsDaily, nullRouteRow rtPositionsDaily]) :=
  have hs : rtPositionsDaily ∈ aggregateSchemas := by decide
  ⟨hs, upsertAll_twice_nullRoute _ hs []⟩

end Transit
