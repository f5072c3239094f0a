import Transit.Ingest.FeedMeta
import Transit.Time.Montreal

/-!
# The ingestion worker

`scheduled` reads the active realtime feeds from `feed_endpoints`, fetches each one, and hands
each body to `saveRT`, which skips a body whose SHA-256 it has seen for that provider, and
otherwise writes the body to R2 under a path named by the Montreal local time, a row to
`rt_trip_updates_raw` or `rt_vehicle_positions_raw`, and an `INFO` line to `ingest_log`.

Every `await` is a call to D1, R2 or the network, and each may throw.  The model makes the
calls explicit: a `World` holds the tables, the bucket and the calls made so far, and an `Env`,
like the worker's own `env`, says how each call turns out.  A computation of the worker returns,
throws, or is killed (when a parse runs past the CPU limit), and in each case leaves a world.

## Main definitions

* `FeedEndpoint`, `RawRow`, `R2Object`, `LogRow` — the rows and objects the worker reads and
  writes.
* `Call`, `World`, `Env` — the calls, the state, and how the calls turn out.
* `Worker` — the worker's computations, with `call` and the D1, R2 and `fetch` calls built on it.
* `saveRT`, `ingestFeed`, `scheduled` — the worker's code.
-/

namespace Transit

/-! ### Rows, objects and calls -/

/-- A row of `feed_endpoints`, with the columns `scheduled` reads and filters on. -/
structure FeedEndpoint where
  feedId : String
  providerKey : String
  feedKind : String
  url : String
  isActive : ℤ
  deriving DecidableEq, Repr

/-- SQLite's `feed_kind LIKE 'gtfsrt_%'`: `gtfsrt` in any ASCII case, then at least one
character. -/
def likeGtfsrt (s : String) : Bool :=
  match s.data with
  | c₁ :: c₂ :: c₃ :: c₄ :: c₅ :: c₆ :: _ :: _ =>
    [c₁, c₂, c₃, c₄, c₅, c₆].map Char.toLower = "gtfsrt".data
  | _ => false

/-- The two raw tables. -/
inductive RawTable where
  /-- `rt_trip_updates_raw` -/
  | tripUpdates
  /-- `rt_vehicle_positions_raw` -/
  | vehiclePositions
  deriving DecidableEq, Repr

/-- The table `saveRT` writes a feed kind to. -/
def rawTable (kind : String) : RawTable :=
  if kind = "gtfsrt_trip_updates" then .tripUpdates else .vehiclePositions

/-- A row of a raw table, with the table it is in.  `ingested_at` is not modelled. -/
structure RawRow where
  table : RawTable
  providerKey : String
  feedId : String
  feedTs : Option IsoText
  hashSha256 : String
  entityCount : ℕ
  deriving DecidableEq, Repr

/-- The path `gtfs-rt/{provider}/{kind}/dt={date}/{kind}_{stamp}.pb`, by its parts. -/
structure R2Key where
  provider : String
  kind : String
  date : LocalDate
  stamp : IsoText
  deriving DecidableEq, Repr

/-- An object of the bucket: its key, its body and the instant it was uploaded. -/
structure R2Object where
  key : R2Key
  body : List UInt8
  uploaded : Instant
  deriving DecidableEq, Repr

/-- The text of a log line. -/
inductive LogMessage where
  /-- `HTTP ${res.status} ${res.statusText}` -/
  | http (status : ℕ) (statusText : String)
  /-- `e?.message || String(e)` -/
  | error (text : String)
  /-- `Saved ${path}` -/
  | saved (path : R2Key)
  deriving DecidableEq, Repr

/-- The `detail_json` of a save. -/
structure SaveDetail where
  r2Key : R2Key
  bytes : ℕ
  entityCount : ℕ
  feedTsLocal : Option IsoText
  deriving DecidableEq, Repr

/-- A row of `ingest_log`; its `ts` is not modelled. -/
structure LogRow where
  providerKey : Option String
  feedId : Option String
  level : String
  message : LogMessage
  detail : Option SaveDetail
  deriving DecidableEq, Repr

/-- `e?.message || String(e)`: `String(e)` is the name alone when the message is empty. -/
def errorText (e : JsError) : String := if e.message = "" then e.name else e.message

/-- A response to `fetch`. -/
structure Response where
  status : ℕ
  statusText : String
  body : ArrayBuffer

/-- `res.ok`: a status in `200..299`. -/
def Response.ok (r : Response) : Bool := 200 ≤ r.status && r.status ≤ 299

/-- The request headers, as name and value pairs. -/
abbrev Headers := List (String × String)

/-- An awaited call, with what it sends. -/
inductive Call where
  | selectFeeds
  | fetch (url : String) (headers : Headers)
  | arrayBuffer
  | selectRaw (table : RawTable) (providerKey hash : String)
  | put (key : R2Key) (body : List UInt8)
  | insertRaw (row : RawRow)
  | log (row : LogRow)
  deriving DecidableEq, Repr

/-- The calls to D1 and R2, as opposed to the network. -/
def Call.isStore : Call → Bool
  | .fetch .. | .arrayBuffer => false
  | _ => true

/-- The calls that write `ingest_log`. -/
def Call.isLog : Call → Bool
  | .log _ => true
  | _ => false

/-- The fetches, by URL and headers. -/
def Call.fetched? : Call → Option (String × Headers)
  | .fetch url headers => some (url, headers)
  | _ => none

/-! ### The world and the environment -/

/-- What the worker's calls read and write, and the calls made so far. -/
structure World where
  feedEndpoints : List FeedEndpoint
  raw : List RawRow
  bucket : List R2Object
  ingestLog : List LogRow
  calls : List Call
  /-- How many times `new Date()` has been read. -/
  reads : ℕ

/-- The `env` of the worker, and what it cannot see into: the hash, the schema of the raw
tables, the CPU limit, and how each call turns out. -/
structure Env where
  STM_API_KEY : Option String
  /-- Modelled from the spec: the DDL of the raw tables is not in the repository; whether it
  makes `(provider_key, hash_sha256)` unique. -/
  uniqueHash : Bool
  /-- `sha256Hex` of a body, which the model does not compute. -/
  sha256Hex : List UInt8 → String
  /-- The loop iterations a parse may take before the CPU limit kills the invocation. -/
  budget : ℕ
  /-- Whether the `n`-th call, to `c`, throws, and what. -/
  fails : ℕ → Call → Option JsError
  /-- The response to the `n`-th call when it is a `fetch`. -/
  respond : ℕ → Response
  /-- The instant the `k`-th `new Date()` reads. -/
  clock : ℕ → Instant

/-- How a computation of the worker ends, with the world it leaves. -/
inductive Result (α : Type) where
  | ok (a : α) (w : World)
  | throw (e : JsError) (w : World)
  /-- The invocation was killed by the CPU limit. -/
  | killed (w : World)

/-- The world a computation leaves, however it ends. -/
def Result.world {α : Type} : Result α → World
  | .ok _ w | .throw _ w | .killed w => w

/-- Continue after a return; stop at a throw or a kill. -/
def Result.bind {α β : Type} : Result α → (α → World → Result β) → Result β
  | .ok a w, k => k a w
  | .throw e w, _ => .throw e w
  | .killed w, _ => .killed w

section Result

variable {α β : Type} {k : α → World → Result β}

@[simp] theorem Result.ok_bind (a : α) (w : World) : (Result.ok a w).bind k = k a w := rfl
@[simp] theorem Result.throw_bind (e : JsError) (w : World) : (Result.throw e w).bind k = .throw e w := rfl
@[simp] theorem Result.killed_bind (w : World) : (Result.killed w : Result α).bind k = .killed w := rfl

theorem Result.bind_assoc {γ : Type} (x : Result α) (g : β → World → Result γ) :
    (x.bind k).bind g = x.bind fun a w => (k a w).bind g := by
  cases x <;> rfl

end Result

/-- The worker's computations. -/
def Worker (α : Type) : Type := Env → World → Result α

instance : Monad Worker where
  pure a := fun _ w => .ok a w
  bind x f := fun env w => (x env w).bind fun a => f a env

/-- `try { x } catch (e) { h(e) }`. -/
def Worker.tryCatch {α : Type} (x : Worker α) (h : JsError → Worker α) : Worker α :=
  fun env w =>
    match x env w with
    | .throw e w' => h e env w'
    | r => r

theorem Worker.tryCatch_of_ok {α : Type} {x : Worker α} {h : JsError → Worker α} {env : Env}
    {w w' : World} {a : α} (hx : x env w = .ok a w') : Worker.tryCatch x h env w = .ok a w' := by
  simp only [Worker.tryCatch, hx]

/-- A value computed from the environment and the world, with no call. -/
def Worker.read {α : Type} (f : Env → World → α) : Worker α := fun env w => .ok (f env w) w

/-- A change of the world that follows a call's success. -/
def Worker.modify (f : World → World) : Worker Unit := fun _ w => .ok () (f w)

section Worker

variable {α β : Type} (env : Env) (w : World)

@[simp] theorem Worker.pure_apply (a : α) : (pure a : Worker α) env w = .ok a w := rfl
@[simp] theorem Worker.bind_apply (x : Worker α) (f : α → Worker β) :
    (x >>= f) env w = (x env w).bind fun a => f a env := rfl
@[simp] theorem Worker.read_apply (f : Env → World → α) : Worker.read f env w = .ok (f env w) w := rfl
@[simp] theorem Worker.modify_apply (f : World → World) : Worker.modify f env w = .ok () (f w) := rfl

/-- A bind under a binder, where the world is not yet given. -/
theorem Worker.bind_env (x : Worker α) (f : α → Worker β) :
    (x >>= f) env = fun w => (x env w).bind fun a => f a env := rfl

theorem Worker.pure_env (a : α) : (pure a : Worker α) env = fun w => .ok a w := rfl

end Worker

/-! ### The calls -/

/-- An awaited call: recorded, and then it returns or throws as `env` says. -/
def call (c : Call) : Worker Unit := fun env w =>
  let w' := { w with calls := w.calls ++ [c] }
  match env.fails w.calls.length c with
  | some e => .throw e w'
  | none => .ok () w'

theorem call_of_none {c : Call} {env : Env} {w : World} (h : env.fails w.calls.length c = none) :
    call c env w = .ok () { w with calls := w.calls ++ [c] } := by
  simp only [call, h]

theorem call_of_some {c : Call} {env : Env} {w : World} {e : JsError}
    (h : env.fails w.calls.length c = some e) :
    call c env w = .throw e { w with calls := w.calls ++ [c] } := by
  simp only [call, h]

/-- `new Date()`. -/
def newDate : Worker Instant := fun env w => .ok (env.clock w.reads) { w with reads := w.reads + 1 }

/-- The rows `WHERE is_active = 1 AND feed_kind LIKE 'gtfsrt_%'`. -/
def World.activeFeeds (w : World) : List FeedEndpoint :=
  w.feedEndpoints.filter fun f => f.isActive = 1 && likeGtfsrt f.feedKind

/-- The active realtime feeds:
`SELECT feed_id, provider_key, feed_kind, url FROM feed_endpoints WHERE ...`. -/
def selectFeeds : Worker (List FeedEndpoint) := do
  call .selectFeeds
  Worker.read fun _ w => w.activeFeeds

/-- `fetch(url, { headers })`. -/
def fetch (url : String) (headers : Headers) : Worker Response := do
  let n ← Worker.read fun _ w => w.calls.length
  call (.fetch url headers)
  Worker.read fun env _ => env.respond n

/-- `res.arrayBuffer()`. -/
def arrayBuffer (res : Response) : Worker ArrayBuffer := do
  call .arrayBuffer
  pure res.body

/-- Whether a raw table holds a row of a provider with a hash:
`WHERE provider_key=?1 AND hash_sha256=?2`. -/
def World.hasRaw (w : World) (table : RawTable) (pkey hash : String) : Bool :=
  w.raw.any fun r => r.table = table && r.providerKey = pkey && r.hashSha256 = hash

/-- `SELECT 1 FROM {table} WHERE provider_key=?1 AND hash_sha256=?2`, as `.first()` finds a
row or not. -/
def selectRaw (table : RawTable) (pkey hash : String) : Worker Bool := do
  call (.selectRaw table pkey hash)
  Worker.read fun _ w => w.hasRaw table pkey hash

/-- SQLite's error when an insert breaks the uniqueness of `(provider_key, hash_sha256)`. -/
def uniqueError : JsError := ⟨"Error", "UNIQUE constraint failed"⟩

/-- `INSERT INTO {table} (...) VALUES (...)`. -/
def insertRaw (row : RawRow) : Worker Unit := do
  call (.insertRaw row)
  fun env w =>
    if env.uniqueHash && w.hasRaw row.table row.providerKey row.hashSha256 then
      .throw uniqueError w
    else .ok () { w with raw := w.raw ++ [row] }

/-- The bucket after a put: an object under the same key is replaced. -/
def putObject (bucket : List R2Object) (o : R2Object) : List R2Object :=
  bucket.filter (·.key ≠ o.key) ++ [o]

/-- `R2.put(path, ab)`.  R2 stamps `uploaded` when the put completes, moments after `nowLocal`;
the model takes them to be the same instant. -/
def r2Put (key : R2Key) (ab : ArrayBuffer) (t : Instant) : Worker Unit := do
  call (.put key ab.data)
  Worker.modify fun w => { w with bucket := putObject w.bucket ⟨key, ab.data, t⟩ }

/-- `log(env, level, msg, provider_key, feed_id, detail)`. -/
def log (level : String) (msg : LogMessage) (providerKey feedId : Option String)
    (detail : Option SaveDetail) : Worker Unit := do
  let row : LogRow := ⟨providerKey, feedId, level, msg, detail⟩
  call (.log row)
  Worker.modify fun w => { w with ingestLog := w.ingestLog ++ [row] }

/-- `parseFeedMeta(ab)`, which runs until it returns or the CPU limit kills the invocation. -/
def parseMeta (ab : ArrayBuffer) : Worker FeedMeta := fun env w =>
  match parseFeedMeta env.budget ab with
  | .ret m => .ok m w
  | .error e => .throw e w
  | .outOfFuel => .killed w

/-! ### The worker's code -/

/-- `buildHeaders(env, provider_key)`. -/
def buildHeaders (env : Env) (providerKey : String) : Headers :=
  match env.STM_API_KEY with
  | some k => if providerKey = "stm" && k ≠ "" then [("apikey", k)] else []
  | none => []

/-- The path `saveRT` writes to at an instant. -/
def rtPath (pkey kind : String) (now : Instant) : R2Key :=
  ⟨pkey, kind, fmtYMDMontreal now, fmtISOMontreal now⟩

/-- `feedTsLocal`: the header timestamp in Montreal time, when it is a positive number. -/
def feedTsLocal : Option Num → Option IsoText
  | some (.fin n) => if 0 < n then some (fmtISOMontreal (n * 1000)) else none
  | some .inf => some .invalidDate
  | none => none

/-- What `saveRT` returns. -/
inductive SaveResult where
  | skipped
  | saved (path : R2Key)
  deriving DecidableEq, Repr

/-- `saveRT(env, pkey, feed_id, kind, ab)`. -/
def saveRT (pkey feedId kind : String) (ab : ArrayBuffer) : Worker SaveResult := do
  let hash ← Worker.read fun env _ => env.sha256Hex ab.data
  let table := rawTable kind
  if ← selectRaw table pkey hash then return .skipped
  let m ← parseMeta ab
  let nowLocal ← newDate
  let path := rtPath pkey kind nowLocal
  r2Put path ab nowLocal
  let feedTs := feedTsLocal m.headerTsSec
  insertRaw ⟨table, pkey, feedId, feedTs, hash, m.entityCount⟩
  log "INFO" (.saved path) (some pkey) (some feedId) (some ⟨path, ab.data.length, m.entityCount, feedTs⟩)
  return .saved path

/-- The `try` block of the loop in `scheduled`, for one feed. -/
def ingestFeed (f : FeedEndpoint) : Worker Unit := do
  let headers ← Worker.read fun env _ => buildHeaders env f.providerKey
  let res ← fetch f.url headers
  if !res.ok then
    log "ERROR" (.http res.status res.statusText) (some f.providerKey) (some f.feedId) none
  else
    let ab ← arrayBuffer res
    let _ ← saveRT f.providerKey f.feedId f.feedKind ab

/-- The loop of `scheduled`, each feed in its `try`, its `catch` logging the error. -/
def ingestFeeds : List FeedEndpoint → Worker Unit
  | [] => pure ()
  | f :: fs => do
    Worker.tryCatch (ingestFeed f) fun e =>
      log "ERROR" (.error (errorText e)) (some f.providerKey) (some f.feedId) none
    ingestFeeds fs

/-- `scheduled(_evt, env)`. -/
def scheduled : Worker Unit := do
  let feeds ← selectFeeds
  ingestFeeds feeds

/-- The world before any run: no feeds, rows, objects or calls. -/
def World.init : World := ⟨[], [], [], [], [], 0⟩

/-- A run of `scheduled` once `feed_endpoints` holds `feeds`. -/
def runScheduled (env : Env) (w : World) (feeds : List FeedEndpoint) : World :=
  (scheduled env { w with feedEndpoints := feeds }).world

/-- Runs of `scheduled`, one for each state of `feed_endpoints`. -/
def runs (env : Env) (w : World) (tables : List (List FeedEndpoint)) : World :=
  tables.foldl (runScheduled env) w

@[simp] theorem runs_nil (env : Env) (w : World) : runs env w [] = w := rfl

@[simp] theorem runs_cons (env : Env) (w : World) (fs : List FeedEndpoint)
    (tables : List (List FeedEndpoint)) :
    runs env w (fs :: tables) = runs env (runScheduled env w fs) tables := rfl

end Transit
