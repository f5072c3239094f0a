import Transit.Ingest.Worker

/-!
# The static ingestion worker

`transit-gtfs-static-worker` records the GTFS static archives of the providers.  In its default
mode a GitHub Action downloads the archive, uploads it to R2, and posts a JSON body to `/log`
with the shared secret in `X-Log-Secret`; the worker inserts a line into `ingest_log` and, when
the body's `detail` names an `r2_key` and a number of `bytes`, a row into `gtfs_files`.  Its cron
handler, which returns at once while `ENABLE_CRON_STATIC` is `false`, downloads each active
static feed with up to six attempts and saves the archive with `saveStatic`.

The model follows the one of the realtime ingestion worker: a `World` holds the tables, the
bucket and the calls made so far, an `Env`, like the worker's `env`, says how each call turns
out, and a computation returns or throws, leaving a world in both cases.

The body of `/log` is what `req.json()` resolves to, a parsed JSON value, and the worker binds
its fields to D1 as they are: a column holds the value bound to it.  Whether D1 accepts a value
(it rejects an object) is the environment's to say, like every other failure of a call.

## Main definitions

* `Json`, `Json.get?`, `Json.truthy` — a parsed body, its fields, and JavaScript truthiness.
* `LogLine`, `GtfsFile`, `StaticKey` — the rows and objects the worker writes.
* `Call`, `World`, `Env`, `Worker` — the calls, the state, how the calls turn out, and the
  worker's computations.
* `LogBody`, `postLog`, `fetch` — the `fetch` handler and its `/log` endpoint.
* `tryDownload`, `backoff`, `attempt`, `downloadLoop`, `saveStatic`, `staticFeed`, `cron`,
  `scheduled` — the cron handler.
* `Event`, `runEvents` — requests and cron ticks, one after another.
-/

namespace Transit

namespace GtfsStatic

/-! ### Parsed bodies -/

/-- A value `req.json()` resolves to.  A number is kept by its value; the worker only tests it
for truthiness and binds it. -/
inductive Json where
  | null
  | bool (b : Bool)
  | num (x : ℚ)
  | str (s : String)
  | arr (xs : List Json)
  | obj (members : List (String × Json))
  deriving Repr

namespace Json

/-- `v.name`, with `undefined` as `none`: the last member of that name of an object
(`JSON.parse` keeps the last of duplicates).  No other value has a property the worker reads. -/
def get? : Json → String → Option Json
  | .obj members, name => (members.reverse.find? fun m => m.1 = name).map (·.2)
  | _, _ => none

/-- JavaScript truthiness: `null`, `false`, `0` and `""` are falsy. -/
def truthy : Json → Bool
  | .null => false
  | .bool b => b
  | .num x => x != 0
  | .str s => s != ""
  | .arr _ | .obj _ => true

/-- `a || b`, where `a` may be `undefined`. -/
def or : Option Json → Json → Json
  | some a, b => if a.truthy then a else b
  | none, b => b

/-- Whether a value is the text `s`, as `WHERE column = ?` with `s` bound compares it. -/
def isStr (s : String) : Json → Bool
  | .str t => t == s
  | _ => false

@[simp] theorem get?_null (name : String) : get? .null name = none := rfl

/-- A value with a member of a name is an object, hence truthy. -/
theorem truthy_of_get? {v : Json} {name : String} {x : Json} (h : v.get? name = some x) :
    v.truthy = true := by
  cases v <;> simp_all [get?, truthy]

end Json

/-! ### Rows, objects and calls -/

/-- A line of `ingest_log`, by the values bound to `?1` .. `?5`; its `ts` is D1's clock. -/
structure LogLine where
  provider_key : Json
  feed_id : Json
  level : Json
  message : Json
  /-- `detail ? JSON.stringify(detail) : null`, kept as the value stringified. -/
  detail_json : Option Json
  deriving Repr

/-- A row of `gtfs_files`, by the values bound; its `ingested_at` is D1's clock. -/
structure GtfsFile where
  provider_key : Json
  feed_id : Json
  sha256 : Json
  bytes : Json
  r2_key : Json
  deriving Repr

/-- `n` with two digits, as `toLocaleString` writes a `2-digit` month or day. -/
def twoDigits (n : ℕ) : String := if n < 10 then "0" ++ toString n else toString n

/-- `fmtYMD_Montreal(d)`'s text, `YYYY-MM-DD`. -/
def LocalDate.text (d : LocalDate) : String :=
  toString d.year ++ "-" ++ twoDigits d.month ++ "-" ++ twoDigits d.day

/-- The path `gtfs-static/{pkey}/dt={date}/gtfs_{pkey}_{date}.zip`, by its parts. -/
structure StaticKey where
  provider : String
  date : LocalDate
  deriving DecidableEq, Repr

/-- The path's text. -/
def StaticKey.text (k : StaticKey) : String :=
  "gtfs-static/" ++ k.provider ++ "/dt=" ++ LocalDate.text k.date ++ "/gtfs_" ++ k.provider ++ "_" ++
    LocalDate.text k.date ++ ".zip"

/-- An awaited call, with what it sends. -/
inductive Call where
  | insertLog (line : LogLine)
  | insertFile (row : GtfsFile)
  | selectFeeds
  | head (key : StaticKey)
  | fetch (url : String)
  | arrayBuffer
  | selectFile (pkey hash : String)
  | put (key : StaticKey) (body : List UInt8)
  /-- `sleep(ms)`, which never throws. -/
  | sleep (ms : ℕ)
  deriving Repr

/-! ### The world and the environment -/

/-- What the worker's calls read and write, and the calls made so far. -/
structure World where
  feedEndpoints : List FeedEndpoint
  ingestLog : List LogLine
  gtfsFiles : List GtfsFile
  bucket : List (StaticKey × List UInt8)
  calls : List Call
  /-- How many times `new Date()` has been read. -/
  reads : ℕ
  /-- How many times `Math.random()` has been drawn. -/
  draws : ℕ

/-- The `env` of the worker, and what the model does not compute: the hash, how each call turns
out, the clock, and `Math.random()`. -/
structure Env where
  LOG_SHARED_SECRET : Option String
  /-- `sha256Hex` of a body. -/
  sha256Hex : List UInt8 → String
  /-- Whether the `n`-th call, to `c`, throws, and what. -/
  fails : ℕ → Call → Option JsError
  /-- The response to the `n`-th call when it is a `fetch`. -/
  respond : ℕ → Response
  /-- The instant the `k`-th `new Date()` reads. -/
  clock : ℕ → Instant
  /-- `randInt(0, 400)` at the `k`-th draw. -/
  jitter : ℕ → Fin 401

/-- The worker's computations: a value or a thrown exception, with the world left. -/
def Worker (α : Type) : Type := Env → World → Except JsError α × World

/-- Continue after a return; stop at a throw. -/
def next {α β : Type} : Except JsError α × World → (α → World → Except JsError β × World) →
    Except JsError β × World
  | (.ok a, w), k => k a w
  | (.error e, w), _ => (.error e, w)

instance : Monad Worker where
  pure a := fun _ w => (.ok a, w)
  bind x f := fun env w => next (x env w) fun a => f a env

section Worker

variable {α β : Type} (env : Env) (w : World)

@[simp] theorem next_ok (a : α) (k : α → World → Except JsError β × World) :
    next (.ok a, w) k = k a w := rfl

@[simp] theorem next_error (e : JsError) (k : α → World → Except JsError β × World) :
    next (.error e, w) k = (.error e, w) := rfl

theorem next_of_ok {x : Except JsError α × World} {a : α} (h : x.1 = .ok a)
    (k : α → World → Except JsError β × World) : next x k = k a x.2 := by
  obtain ⟨r, w⟩ := x
  cases h
  rfl

theorem next_of_error {x : Except JsError α × World} {e : JsError} (h : x.1 = .error e)
    (k : α → World → Except JsError β × World) : next x k = (.error e, x.2) := by
  obtain ⟨r, w⟩ := x
  cases h
  rfl

@[simp] theorem pure_apply (a : α) : (pure a : Worker α) env w = (.ok a, w) := rfl

@[simp] theorem bind_apply (x : Worker α) (f : α → Worker β) :
    (x >>= f) env w = next (x env w) fun a => f a env := rfl

end Worker

/-- A value computed from the environment and the world, with no call. -/
def read {α : Type} (f : Env → World → α) : Worker α := fun env w => (.ok (f env w), w)

/-- A change of the world that follows a call's success. -/
def modify (f : World → World) : Worker Unit := fun _ w => (.ok (), f w)

/-- `throw e`. -/
def throw {α : Type} (e : JsError) : Worker α := fun _ w => (.error e, w)

/-- The value of a computation that may have thrown. -/
def liftExcept {α : Type} (x : Except JsError α) : Worker α := fun _ w => (x, w)

/-- `try { x } catch (e) { h(e) }`. -/
def tryCatch {α : Type} (x : Worker α) (h : JsError → Worker α) : Worker α := fun env w =>
  match x env w with
  | (.error e, w') => h e env w'
  | r => r

theorem tryCatch_of_ok {α : Type} {x : Worker α} {h : JsError → Worker α} {env : Env}
    {w : World} {a : α} (hx : (x env w).1 = .ok a) : tryCatch x h env w = x env w := by
  unfold tryCatch
  generalize x env w = p at hx ⊢
  obtain ⟨r, w'⟩ := p
  cases hx
  rfl

theorem tryCatch_of_error {α : Type} {x : Worker α} {h : JsError → Worker α} {env : Env}
    {w : World} {e : JsError} (hx : (x env w).1 = .error e) :
    tryCatch x h env w = h e env (x env w).2 := by
  unfold tryCatch
  generalize x env w = p at hx ⊢
  obtain ⟨r, w'⟩ := p
  cases hx
  rfl

section Ops

variable {α : Type} (env : Env) (w : World)

@[simp] theorem read_apply (f : Env → World → α) : read f env w = (.ok (f env w), w) := rfl
@[simp] theorem modify_apply (f : World → World) : modify f env w = (.ok (), f w) := rfl
@[simp] theorem throw_apply (e : JsError) : (throw e : Worker α) env w = (.error e, w) := rfl
@[simp] theorem liftExcept_apply (x : Except JsError α) : liftExcept x env w = (x, w) := rfl

end Ops

/-- An awaited call: recorded, and then it returns or throws as `env` says. -/
def call (c : Call) : Worker Unit := fun env w =>
  let w' := { w with calls := w.calls ++ [c] }
  match env.fails w.calls.length c with
  | some e => (.error e, w')
  | none => (.ok (), w')

/-- `new Date()`. -/
def newDate : Worker Instant := fun env w => (.ok (env.clock w.reads), { w with reads := w.reads + 1 })

/-- `randInt(0, 400)`. -/
def randInt : Worker ℕ := fun env w => (.ok (env.jitter w.draws), { w with draws := w.draws + 1 })

/-- `sleep(ms)`: the timer is recorded; it never throws. -/
def sleep (ms : ℕ) : Worker Unit := fun _ w => (.ok (), { w with calls := w.calls ++ [.sleep ms] })

/-! ### D1 and R2 -/

/-- The line `log` binds: `?1` .. `?5` are `provider_key, feed_id, level, msg,
detail ? JSON.stringify(detail) : null`. -/
def logLine (level msg provider_key feed_id detail : Json) : LogLine :=
  ⟨provider_key, feed_id, level, msg, if detail.truthy then some detail else none⟩

/-- `log(env, level, msg, provider_key, feed_id, detail)`: one `INSERT INTO ingest_log`. -/
def log (level msg provider_key feed_id detail : Json) : Worker Unit := do
  let line := logLine level msg provider_key feed_id detail
  call (.insertLog line)
  modify fun w => { w with ingestLog := w.ingestLog ++ [line] }

/-- `INSERT INTO gtfs_files (provider_key, feed_id, ingested_at, sha256, bytes, r2_key)`. -/
def insertFile (row : GtfsFile) : Worker Unit := do
  call (.insertFile row)
  modify fun w => { w with gtfsFiles := w.gtfsFiles ++ [row] }

/-- `SELECT feed_id, provider_key, feed_kind, url FROM feed_endpoints
WHERE is_active = 1 AND feed_kind = 'gtfs_static'`. -/
def selectFeeds : Worker (List FeedEndpoint) := do
  call .selectFeeds
  read fun _ w => w.feedEndpoints.filter fun f => f.isActive = 1 && f.feedKind = "gtfs_static"

/-- `SELECT 1 FROM gtfs_files WHERE provider_key=?1 AND sha256=?2`, as `.first()` finds a row
or not. -/
def selectFile (pkey hash : String) : Worker Bool := do
  call (.selectFile pkey hash)
  read fun _ w => w.gtfsFiles.any fun r => r.provider_key.isStr pkey && r.sha256.isStr hash

/-- `env.R2?.head?.(key)`: whether the bucket holds an object under the key. -/
def head (key : StaticKey) : Worker Bool := do
  call (.head key)
  read fun _ w => w.bucket.any fun o => o.1 = key

/-- `env.R2.put(path, ab, ...)`: an object under the same key is replaced. -/
def put (key : StaticKey) (ab : ArrayBuffer) : Worker Unit := do
  call (.put key ab.data)
  modify fun w => { w with bucket := w.bucket.filter (fun o => o.1 ≠ key) ++ [(key, ab.data)] }

/-! ### The `fetch` handler -/

/-- A request, with what the worker reads of it. -/
structure Request where
  method : String
  /-- `new URL(req.url).pathname` -/
  pathname : String
  /-- `req.headers.get("X-Log-Secret")` -/
  secret : Option String
  /-- What `await req.json()` gives: the parsed body, or the `SyntaxError` it throws. -/
  json : Except JsError Json

/-- A response of the worker, by its status and text. -/
structure Reply where
  status : ℕ
  text : String
  deriving DecidableEq, Repr

/-- The fields of a `/log` body, after
`const { level = "INFO", message = "External log", provider_key = "stm",
feed_id = "stm_gtfs_static", detail = {} } = body`. -/
structure LogBody where
  level : Json
  message : Json
  provider_key : Json
  feed_id : Json
  detail : Json

/-- The destructuring: a field the body does not have takes its default, and a `null` body
throws the `TypeError` V8 raises on destructuring `null`. -/
def LogBody.of : Json → Except JsError LogBody
  | .null => .error ⟨"TypeError", "Cannot destructure property \x27level\x27 of \x27body\x27 as it is null."⟩
  | body => .ok
    ⟨(body.get? "level").getD (.str "INFO"), (body.get? "message").getD (.str "External log"),
      (body.get? "provider_key").getD (.str "stm"), (body.get? "feed_id").getD (.str "stm_gtfs_static"),
      (body.get? "detail").getD (.obj [])⟩

/-- The `gtfs_files` row `/log` inserts for a provider, a feed and a detail, when
`detail?.r2_key && detail?.bytes`, with `hash = detail?.sha256 || "github-action"`. -/
def fileRow? (provider_key feed_id detail : Json) : Option GtfsFile :=
  match detail.get? "r2_key", detail.get? "bytes" with
  | some key, some bytes =>
    if key.truthy && bytes.truthy then
      some ⟨provider_key, feed_id, Json.or (detail.get? "sha256") (.str "github-action"), bytes, key⟩
    else none
  | _, _ => none

/-- The `try` block of `POST /log`: parse, destructure, log, and record the file. -/
def postLog (json : Except JsError Json) : Worker Unit := do
  let body ← liftExcept json
  let b ← liftExcept (LogBody.of body)
  log b.level b.message b.provider_key b.feed_id b.detail
  match fileRow? b.provider_key b.feed_id b.detail with
  | some row => insertFile row
  | none => pure ()

/-- `!env.LOG_SHARED_SECRET || provided !== env.LOG_SHARED_SECRET`. -/
def rejects (secret provided : Option String) : Bool :=
  match secret with
  | some s => s == "" || provided != some s
  | none => true

/-- `fetch(req, env)`. -/
def fetch (req : Request) : Worker Reply :=
  if req.method = "GET" then pure ⟨200, "GTFS-Static worker alive ✅"⟩
  else if req.method = "POST" ∧ req.pathname = "/log" then do
    if rejects (← read fun env _ => env.LOG_SHARED_SECRET) req.secret then
      return ⟨401, "Unauthorized"⟩
    tryCatch (do postLog req.json; pure ⟨200, "Logged ✅"⟩) fun e =>
      pure ⟨500, "Log error: " ++ errorText e⟩
  else pure ⟨404, "Not found"⟩

/-! ### The cron handler -/

/-- `const ENABLE_CRON_STATIC = false`. -/
def ENABLE_CRON_STATIC : Bool := false

/-- `fmtYMD_Montreal()`. -/
def today : Worker LocalDate := do
  let t ← newDate
  pure (fmtYMDMontreal t)

/-- `fetchWithTimeout(url, { headers }, 25000)`, which throws on a network error or when the
timeout aborts it. -/
def fetchWithTimeout (url : String) : Worker Response := do
  let n ← read fun _ w => w.calls.length
  call (.fetch url)
  read fun env _ => env.respond n

/-- `res.arrayBuffer()`. -/
def arrayBuffer (res : Response) : Worker ArrayBuffer := do
  call .arrayBuffer
  pure res.body

/-- `new Error(`HTTP ${res.status} ${res.statusText}`)`. -/
def httpError (res : Response) : JsError :=
  ⟨"Error", "HTTP " ++ toString res.status ++ " " ++ res.statusText⟩

/-- `[1500, 3000, 6000, 10000, 15000, 20000]`: the delay after each failed attempt, in ms,
before the jitter. -/
def retryDelays : List ℕ := [1500, 3000, 6000, 10000, 15000, 20000]

/-- The `try` block of the download loop: fetch, throw unless `res.ok`, read the body; its
`break` gives the body. -/
def tryDownload (url : String) : Worker (Except JsError ArrayBuffer) := do
  let res ← fetchWithTimeout url
  if !res.ok then throw (httpError res)
  let ab ← arrayBuffer res
  pure (.ok ab)

/-- The `catch` block of the download loop at attempt `i`: keep the error in `lastErr` and sleep
`[...][i - 1] + randInt(0, 400)`. -/
def backoff (i : ℕ) (e : JsError) : Worker (Except JsError ArrayBuffer) := do
  let j ← randInt
  sleep (retryDelays.getD (i - 1) 0 + j)
  pure (.error e)

/-- The body of the download loop at attempt `i`. -/
def attempt (url : String) (i : ℕ) : Worker (Except JsError ArrayBuffer) :=
  tryCatch (tryDownload url) (backoff i)

/-- `for (let i = 1; i <= 6; i++)` from the attempts left, with `lastErr` so far: the body and
the last error. -/
def downloadLoop (url : String) : List ℕ → Option JsError →
    Worker (Option ArrayBuffer × Option JsError)
  | [], lastErr => pure (none, lastErr)
  | i :: is, lastErr => do
    match ← attempt url i with
    | .ok ab => pure (some ab, lastErr)
    | .error e => downloadLoop url is (some e)

/-- What `saveStatic` returns. -/
inductive SaveOutcome where
  | skipped
  | saved (path : StaticKey)
  deriving DecidableEq, Repr

/-- `saveStatic(env, pkey, feed_id, ab)`. -/
def saveStatic (pkey feed_id : String) (ab : ArrayBuffer) : Worker SaveOutcome := do
  let hash ← read fun env _ => env.sha256Hex ab.data
  if ← selectFile pkey hash then return .skipped
  let date ← today
  let path : StaticKey := ⟨pkey, date⟩
  put path ab
  insertFile ⟨.str pkey, .str feed_id, .str hash, .num ab.data.length, .str path.text⟩
  log (.str "INFO") (.str ("Saved " ++ path.text)) (.str pkey) (.str feed_id)
    (.obj [("r2_key", .str path.text), ("bytes", .num ab.data.length), ("sha256", .str hash),
      ("source", .str "worker-cron")])
  return .saved path

/-- The body of the loop of `scheduled`, for one feed. -/
def staticFeed (f : FeedEndpoint) : Worker Unit := do
  let date ← today
  let key : StaticKey := ⟨f.providerKey, date⟩
  if ← head key then
    log (.str "INFO") (.str "Already saved today — skipping") (.str f.providerKey)
      (.str f.feedId) (.obj [("r2_key", .str key.text)])
  else
    let (ab, lastErr) ← downloadLoop f.url [1, 2, 3, 4, 5, 6] none
    match ab with
    | none =>
      log (.str "ERROR") (.str "Static download failed") (.str f.providerKey) (.str f.feedId)
        (.obj [("url", .str f.url), ("attempts", .num 6),
          ("error", .str ((lastErr.map errorText).getD "null"))])
    | some ab =>
      tryCatch (do let _ ← saveStatic f.providerKey f.feedId ab) fun e =>
        log (.str "ERROR") (.str "SaveStatic error") (.str f.providerKey) (.str f.feedId)
          (.obj [("error", .str (errorText e))])

/-- The loop of `scheduled`. -/
def staticFeeds : List FeedEndpoint → Worker Unit
  | [] => pure ()
  | f :: fs => do
    staticFeed f
    staticFeeds fs

/-- What `scheduled` runs once `ENABLE_CRON_STATIC` is set. -/
def cron : Worker Unit := do
  let feeds ← selectFeeds
  staticFeeds feeds

/-- `scheduled(_evt, env)`: `if (!ENABLE_CRON_STATIC) return;`, then the cron. -/
def scheduled : Worker Unit := if !ENABLE_CRON_STATIC then pure () else cron

/-! ### Runs -/

/-- What happens to the worker: a request, or a tick of its cron trigger. -/
inductive Event where
  | request (req : Request)
  | tick

/-- The handler an event runs. -/
def Event.run : Event → Worker Unit
  | .request req => do let _ ← fetch req
  | .tick => scheduled

/-- Events one after another, each from the world the last one left, however it ended. -/
def runEvents (env : Env) : World → List Event → World
  | w, [] => w
  | w, e :: es => runEvents env (e.run env w).2 es

end GtfsStatic

end Transit
