import Transit.Bronze.LogJournal

/-!
# The store of the cron mode

With `ENABLE_CRON_STATIC` set, the static worker's cron downloads each active static feed once a
day and hands the archive to `saveStatic`, which

```
SELECT 1 FROM gtfs_files WHERE provider_key=?1 AND sha256=?2   -- skip a body already recorded
R2.put(path, ab)
INSERT INTO gtfs_files (..., sha256, bytes, r2_key) VALUES (..., hash, ab.byteLength, path)
```

Nothing else of the cron writes `gtfs_files` or the bucket.  So the cron never records one
archive twice for a provider, whatever its calls do: a row is inserted only after the `SELECT`
found none for its provider and hash.  And as long as the `INSERT`s do not throw, every object
in the bucket has a row that records it, by provider, hash, size and key: a `put` is always
followed by the row of the object it writes, and rows are never removed.  Requests to `/log`
add rows and no object, so they keep the second fact; their rows are not checked against the
table, so only requests that add no file keep the first.

## Main definitions

* `Keeps`, `StoreFrame` — a computation keeps a property of `gtfs_files` and the bucket; it
  leaves both alone.
* `Deduped`, `Backed` — no two rows for one provider and hash; a row for every object.
* `Event.runEnabled`, `runEnabled` — the events with the cron enabled.

## Main results

* `saveStatic_cases` — what `saveStatic` does to `gtfs_files` and the bucket.
* `cron_keeps` — a property kept by `saveStatic` is kept by the whole cron.
* `runEnabled_deduped` — runs whose requests add no file keep `gtfs_files` free of duplicates.
* `runEnabled_backed` — runs whose inserts do not throw keep every object recorded.
-/

namespace Transit

namespace GtfsStatic

/-! ### Computations that keep a property of the store -/

/-- `m` keeps `P` of `gtfs_files` and the bucket from every world, however it ends. -/
def Keeps (env : Env) (P : List GtfsFile → List (StaticKey × List UInt8) → Prop) {α : Type}
    (m : Worker α) : Prop :=
  ∀ w, P w.gtfsFiles w.bucket → P (m env w).2.gtfsFiles (m env w).2.bucket

/-- `m` leaves `gtfs_files` and the bucket alone: it keeps every property of them. -/
def StoreFrame {α : Type} (m : Worker α) : Prop :=
  ∀ env P, Keeps env P m

section Keeps

variable {α β : Type} {env : Env} {P : List GtfsFile → List (StaticKey × List UInt8) → Prop}

theorem Keeps.bind {x : Worker α} {f : α → Worker β} (hx : Keeps env P x)
    (hf : ∀ a, Keeps env P (f a)) : Keeps env P (x >>= f) := by
  intro w hw
  have hx' := hx w hw
  rw [bind_apply]
  generalize x env w = r at hx' ⊢
  rcases r with ⟨_ | a, w'⟩
  · exact hx'
  · exact hf a w' hx'

theorem Keeps.tryCatch {x : Worker α} {h : JsError → Worker α} (hx : Keeps env P x)
    (hh : ∀ e, Keeps env P (h e)) : Keeps env P (tryCatch x h) := by
  intro w hw
  have hx' := hx w hw
  unfold GtfsStatic.tryCatch
  generalize x env w = r at hx' ⊢
  rcases r with ⟨_ | a, w'⟩
  · exact hh _ w' hx'
  · exact hx'

/-- A computation that changes only the calls, the clock reads and the draws. -/
theorem StoreFrame.of_snd {m : Worker α}
    (h : ∀ env w, (m env w).2.gtfsFiles = w.gtfsFiles ∧ (m env w).2.bucket = w.bucket) :
    StoreFrame m := fun env _ w hw => by rw [(h env w).1, (h env w).2]; exact hw

theorem StoreFrame.bind {x : Worker α} {f : α → Worker β} (hx : StoreFrame x)
    (hf : ∀ a, StoreFrame (f a)) : StoreFrame (x >>= f) := fun env P =>
  (hx env P).bind fun a => hf a env P

theorem StoreFrame.pure (a : α) : StoreFrame (pure a : Worker α) := fun _ _ _ hw => hw

theorem StoreFrame.read (f : Env → World → α) : StoreFrame (read f) := fun _ _ _ hw => hw

theorem StoreFrame.throw (e : JsError) : StoreFrame (throw e : Worker α) := fun _ _ _ hw => hw

theorem StoreFrame.call (c : Call) : StoreFrame (call c) :=
  StoreFrame.of_snd fun env w => by simp

end Keeps

/-! ### The cron's calls that write nothing it keeps -/

theorem newDate_frame : StoreFrame newDate := StoreFrame.of_snd fun _ _ => ⟨rfl, rfl⟩

theorem randInt_frame : StoreFrame randInt := StoreFrame.of_snd fun _ _ => ⟨rfl, rfl⟩

theorem sleep_frame (ms : ℕ) : StoreFrame (sleep ms) := StoreFrame.of_snd fun _ _ => ⟨rfl, rfl⟩

theorem today_frame : StoreFrame today := newDate_frame.bind fun _ => StoreFrame.pure _

theorem log_frame (level msg provider_key feed_id detail : Json) :
    StoreFrame (log level msg provider_key feed_id detail) :=
  (StoreFrame.call _).bind fun _ => StoreFrame.of_snd fun _ _ => ⟨rfl, rfl⟩

theorem selectFeeds_frame : StoreFrame selectFeeds :=
  (StoreFrame.call _).bind fun _ => StoreFrame.read _

theorem selectFile_frame (pkey hash : String) : StoreFrame (selectFile pkey hash) :=
  (StoreFrame.call _).bind fun _ => StoreFrame.read _

theorem head_frame (key : StaticKey) : StoreFrame (head key) :=
  (StoreFrame.call _).bind fun _ => StoreFrame.read _

theorem tryDownload_frame (url : String) : StoreFrame (tryDownload url) :=
  ((StoreFrame.read _).bind fun _ => (StoreFrame.call _).bind fun _ => StoreFrame.read _).bind
    fun res => by
      by_cases hok : res.ok
      · simp only [hok, Bool.not_true, Bool.false_eq_true, if_false]
        exact (StoreFrame.pure _).bind fun _ =>
          ((StoreFrame.call _).bind fun _ => StoreFrame.pure _).bind fun _ => StoreFrame.pure _
      · simp only [hok, Bool.not_false, if_true]
        exact (StoreFrame.throw _).bind fun _ =>
          ((StoreFrame.call _).bind fun _ => StoreFrame.pure _).bind fun _ => StoreFrame.pure _

theorem attempt_frame (url : String) (i : ℕ) : StoreFrame (attempt url i) := fun env P =>
  (tryDownload_frame url env P).tryCatch fun _ =>
    (randInt_frame.bind fun _ => (sleep_frame _).bind fun _ => StoreFrame.pure _) env P

theorem downloadLoop_frame (url : String) :
    ∀ (is : List ℕ) (lastErr : Option JsError), StoreFrame (downloadLoop url is lastErr)
  | [], _ => StoreFrame.pure _
  | i :: is, _ => (attempt_frame url i).bind fun
    | .ok _ => StoreFrame.pure _
    | .error _ => downloadLoop_frame url is _

/-! ### `saveStatic` -/

/-- A row answers `selectFile pkey hash`. -/
def GtfsFile.isFor (pkey hash : String) (r : GtfsFile) : Bool :=
  r.provider_key.isStr pkey && r.sha256.isStr hash

/-- The row `saveStatic` inserts for a body it saves under `path`. -/
def savedFile (env : Env) (pkey feed_id : String) (ab : ArrayBuffer) (path : StaticKey) :
    GtfsFile :=
  ⟨.str pkey, .str feed_id, .str (env.sha256Hex ab.data), .num ab.data.length, .str path.text⟩

section SaveStatic

@[simp] theorem log_gtfsFiles (env : Env) (w : World)
    (level msg provider_key feed_id detail : Json) :
    (log level msg provider_key feed_id detail env w).2.gtfsFiles = w.gtfsFiles :=
  log_frame level msg provider_key feed_id detail env (fun g _ => g = w.gtfsFiles) w rfl

@[simp] theorem log_bucket (env : Env) (w : World) (level msg provider_key feed_id detail : Json) :
    (log level msg provider_key feed_id detail env w).2.bucket = w.bucket :=
  log_frame level msg provider_key feed_id detail env (fun _ b => b = w.bucket) w rfl

/-- A computation that ends with `return` leaves the world of what came before it. -/
@[simp] theorem next_return_snd {α β : Type} (env : Env) (x : Except JsError α × World) (b : β) :
    (next x fun _ => (pure b : Worker β) env).2 = x.2 := by
  obtain ⟨_ | _, _⟩ := x <;> rfl

variable (env : Env) (w : World) (pkey feed_id : String) (ab : ArrayBuffer)

/-- **What `saveStatic` does to the store.**  Either it leaves `gtfs_files` and the bucket alone,
or no row answered its `SELECT`, it put the body under the key of its provider and some date, and
then it inserted the row of that object, or that `INSERT` threw and `gtfs_files` is as it was. -/
theorem saveStatic_cases :
    ((saveStatic pkey feed_id ab env w).2.gtfsFiles = w.gtfsFiles ∧
        (saveStatic pkey feed_id ab env w).2.bucket = w.bucket) ∨
      ∃ date, w.gtfsFiles.any (GtfsFile.isFor pkey (env.sha256Hex ab.data)) = false ∧
        (saveStatic pkey feed_id ab env w).2.bucket =
          w.bucket.filter (fun o => o.1 ≠ ⟨pkey, date⟩) ++ [(⟨pkey, date⟩, ab.data)] ∧
        ((saveStatic pkey feed_id ab env w).2.gtfsFiles =
            w.gtfsFiles ++ [savedFile env pkey feed_id ab ⟨pkey, date⟩] ∨
          (saveStatic pkey feed_id ab env w).2.gtfsFiles = w.gtfsFiles ∧
            ∃ n,
              env.fails n (.insertFile (savedFile env pkey feed_id ab ⟨pkey, date⟩)) ≠ none) := by
  rcases h₁ : env.fails w.calls.length (.selectFile pkey (env.sha256Hex ab.data)) with _ | e
  · by_cases h₂ : ∃ r ∈ w.gtfsFiles,
        r.provider_key.isStr pkey = true ∧ r.sha256.isStr (env.sha256Hex ab.data) = true
    · simp [saveStatic, selectFile, call, h₁, h₂]
    have hnew : w.gtfsFiles.any (GtfsFile.isFor pkey (env.sha256Hex ab.data)) = false := by
      simpa [GtfsFile.isFor] using h₂
    rcases h₃ : env.fails (w.calls.length + 1)
        (.put ⟨pkey, fmtYMDMontreal (env.clock w.reads)⟩ ab.data) with _ | e
    · rcases h₄ : env.fails (w.calls.length + 2)
          (.insertFile (savedFile env pkey feed_id ab ⟨pkey, fmtYMDMontreal (env.clock w.reads)⟩))
          with _ | e
      · simp only [savedFile] at h₄
        refine .inr ⟨fmtYMDMontreal (env.clock w.reads), hnew, ?_, .inl ?_⟩ <;>
          simp [saveStatic, selectFile, today, newDate, put, insertFile, call, savedFile, h₁, h₂, h₃,
            h₄]
      · refine .inr ⟨fmtYMDMontreal (env.clock w.reads), hnew, ?_, .inr ⟨?_, _, by rw [h₄]; simp⟩⟩ <;>
          simp only [savedFile] at h₄ <;>
          simp [saveStatic, selectFile, today, newDate, put, insertFile, call, h₁, h₂, h₃, h₄]
    · simp [saveStatic, selectFile, today, newDate, put, call, h₁, h₂, h₃]
  · simp [saveStatic, selectFile, call, h₁]

end SaveStatic

/-! ### The cron -/

section Cron

variable {env : Env} {P : List GtfsFile → List (StaticKey × List UInt8) → Prop}
  (hsave : ∀ pkey feed_id ab, Keeps env P (saveStatic pkey feed_id ab))
include hsave

/-- The body of the loop for one feed: `saveStatic` is the only call that writes the store. -/
theorem staticFeed_keeps (f : FeedEndpoint) : Keeps env P (staticFeed f) := by
  refine (today_frame env P).bind fun date => (head_frame _ env P).bind fun b => ?_
  cases b
  · refine (downloadLoop_frame _ _ _ env P).bind fun r => ?_
    obtain ⟨_ | ab, _⟩ := r
    · exact log_frame _ _ _ _ _ env P
    · exact ((hsave _ _ ab).bind fun _ => StoreFrame.pure _ env P).tryCatch fun _ =>
        log_frame _ _ _ _ _ env P
  · exact log_frame _ _ _ _ _ env P

theorem staticFeeds_keeps : ∀ fs, Keeps env P (staticFeeds fs)
  | [] => StoreFrame.pure _ env P
  | f :: fs => (staticFeed_keeps hsave f).bind fun _ => staticFeeds_keeps fs

/-- **A property of the store kept by `saveStatic` is kept by the whole cron.** -/
theorem cron_keeps : Keeps env P cron :=
  (selectFeeds_frame env P).bind (staticFeeds_keeps hsave)

end Cron

/-- The events with `ENABLE_CRON_STATIC` set: a tick runs the cron. -/
def Event.runEnabled : Event → Worker Unit
  | .request req => do let _ ← fetch req
  | .tick => cron

/-- Events one after another with the cron enabled. -/
def runEnabled (env : Env) : World → List Event → World
  | w, [] => w
  | w, e :: es => runEnabled env (e.runEnabled env w).2 es

/-- An environment whose calls all succeed, whose downloads are all an empty archive, and whose
clock stands still. -/
def calmEnv : Env where
  LOG_SHARED_SECRET := none
  sha256Hex _ := ""
  fails _ _ := none
  respond _ := ⟨200, "OK", ⟨[], by decide⟩⟩
  clock _ := 0
  jitter _ := 0

/-- One active static feed of STM, and nothing saved yet. -/
def stmStatic : World :=
  ⟨[⟨"stm_gtfs_static", "stm", "gtfs_static", "stm-gtfs-static", 1⟩], [], [], [], [], 0, 0⟩

/-! ### No archive recorded twice -/

/-- No two rows of `gtfs_files` answer `selectFile` for one provider and hash. -/
def Deduped (files : List GtfsFile) : Prop :=
  ∀ pkey hash, files.countP (GtfsFile.isFor pkey hash) ≤ 1

/-- `saveStatic` inserts a row only where none answered its `SELECT`. -/
theorem saveStatic_deduped (env : Env) (pkey feed_id : String) (ab : ArrayBuffer) :
    Keeps env (fun files _ => Deduped files) (saveStatic pkey feed_id ab) := by
  intro w hw
  rcases saveStatic_cases env w pkey feed_id ab with ⟨hf, -⟩ | ⟨date, hnew, -, hf | ⟨hf, -⟩⟩
  · rwa [hf]
  · intro p h
    rw [hf, List.countP_append]
    by_cases hm : GtfsFile.isFor p h (savedFile env pkey feed_id ab ⟨pkey, date⟩)
    · -- the new row answers only the `SELECT` that found no row
      simp only [GtfsFile.isFor, savedFile, Json.isStr, Bool.and_eq_true, beq_iff_eq] at hm
      obtain ⟨rfl, rfl⟩ := hm
      rw [List.countP_eq_zero.2 (List.any_eq_false.1 hnew), zero_add]
      exact List.countP_le_length _
    · simp [hm, hw p h]
  · rwa [hf]

/-- A run adds no file through requests when no event of it carries one. -/
theorem Event.runEnabled_files_of_none (env : Env) (w : World) (e : Event)
    (he : (e.line? env).bind LogLine.file? = none) :
    (e.runEnabled env w).2.gtfsFiles = w.gtfsFiles ∨ e = .tick := by
  cases e with
  | tick => exact .inr rfl
  | request req =>
    obtain ⟨lines, files, ha, hl, hj⟩ := Event.run_adds env w (.request req)
    have hnil : lines.filterMap LogLine.file? = [] := by
      cases h : (Event.request req).line? env with
      | none => simp [h, List.sublist_nil.1 (h ▸ hl)]
      | some l =>
        rw [h, Option.toList_some] at hl
        rw [h, Option.some_bind] at he
        rcases List.sublist_singleton.1 hl with rfl | rfl <;> simp [he]
    have hfiles : files = [] := List.sublist_nil.1 (by rw [← hnil]; exact hj)
    exact .inl (by rw [show (Event.request req).runEnabled = (Event.request req).run from rfl, ha.file,
      hfiles, List.append_nil])

/-- **The cron never records one archive twice.**  For every environment, however its calls
turn out, over any run with the cron enabled whose requests carry no file, a `gtfs_files` with no
two rows for one provider and hash stays so. -/
theorem runEnabled_deduped (env : Env) :
    ∀ (w : World) (evs : List Event), Deduped w.gtfsFiles →
      (∀ e ∈ evs, (e.line? env).bind LogLine.file? = none) →
      Deduped (runEnabled env w evs).gtfsFiles
  | w, [], hw, _ => hw
  | w, e :: es, hw, hnone => by
    refine runEnabled_deduped env _ es ?_ fun e' he' => hnone e' (List.mem_cons_of_mem e he')
    rcases Event.runEnabled_files_of_none env w e (hnone e (List.mem_cons_self e es)) with h | rfl
    · rwa [h]
    · exact cron_keeps (saveStatic_deduped env) w hw

/-- Two ticks over the STM feed. -/
theorem runEnabled_deduped_ticks :
    Deduped stmStatic.gtfsFiles ∧
      (∀ e ∈ [Event.tick, Event.tick], (e.line? calmEnv).bind LogLine.file? = none) ∧
      Deduped (runEnabled calmEnv stmStatic [.tick, .tick]).gtfsFiles :=
  have hw : Deduped stmStatic.gtfsFiles := fun _ _ => Nat.zero_le _
  have hnone : ∀ e ∈ [Event.tick, Event.tick], (e.line? calmEnv).bind LogLine.file? = none := by
    simp [Event.line?]
  ⟨hw, hnone, runEnabled_deduped calmEnv stmStatic [.tick, .tick] hw hnone⟩

/-! ### Every object recorded -/

/-- A row of `gtfs_files` records an object: its provider, hash, size and key. -/
def Records (env : Env) (o : StaticKey × List UInt8) (r : GtfsFile) : Prop :=
  r.provider_key = .str o.1.provider ∧ r.sha256 = .str (env.sha256Hex o.2) ∧
    r.bytes = .num o.2.length ∧ r.r2_key = .str o.1.text

/-- Every object of the bucket has a row of `gtfs_files` that records it. -/
def Backed (env : Env) (files : List GtfsFile) (bucket : List (StaticKey × List UInt8)) : Prop :=
  ∀ o ∈ bucket, ∃ r ∈ files, Records env o r

/-- No `INSERT INTO gtfs_files` throws. -/
def InsertsSucceed (env : Env) : Prop := ∀ n row, env.fails n (.insertFile row) = none

theorem Backed.append {env : Env} {files : List GtfsFile} {bucket : List (StaticKey × List UInt8)}
    (h : Backed env files bucket) (more : List GtfsFile) : Backed env (files ++ more) bucket :=
  fun o ho => let ⟨r, hr, hrec⟩ := h o ho; ⟨r, List.mem_append_left _ hr, hrec⟩

/-- With its `INSERT` succeeding, `saveStatic` records the object it puts. -/
theorem saveStatic_backed {env : Env} (hins : InsertsSucceed env) (pkey feed_id : String)
    (ab : ArrayBuffer) : Keeps env (Backed env) (saveStatic pkey feed_id ab) := by
  intro w hw
  rcases saveStatic_cases env w pkey feed_id ab with ⟨hf, hb⟩ | ⟨date, -, hb, hf | ⟨-, n, hn⟩⟩
  · rwa [hf, hb]
  · rw [hf, hb]
    intro o ho
    rcases List.mem_append.1 ho with ho | ho
    · exact hw.append _ o (List.mem_filter.1 ho).1
    · rw [List.mem_singleton.1 ho]
      exact ⟨_, List.mem_append_right _ (List.mem_singleton_self _), rfl, rfl, rfl, rfl⟩
  · exact absurd (hins n _) hn

/-- **Every stored archive is recorded.**  For every environment whose `INSERT INTO gtfs_files`
never throws, over any run with the cron enabled, requests to `/log` included: if every object
of the bucket had a row of `gtfs_files` recording its provider, hash, size and key, every object
still has one. -/
theorem runEnabled_backed (env : Env) (hins : InsertsSucceed env) :
    ∀ (w : World) (evs : List Event), Backed env w.gtfsFiles w.bucket →
      Backed env (runEnabled env w evs).gtfsFiles (runEnabled env w evs).bucket
  | w, [], hw => hw
  | w, e :: es, hw => by
    refine runEnabled_backed env hins _ es ?_
    cases e with
    | tick => exact cron_keeps (saveStatic_backed hins) w hw
    | request req =>
      obtain ⟨_, files, ha, -, -⟩ := Event.run_adds env w (.request req)
      show Backed env ((Event.request req).run env w).2.gtfsFiles ((Event.request req).run env w).2.bucket
      rw [ha.file, ha.bucket]
      exact hw.append files

/-- A tick and a request over the STM feed. -/
theorem runEnabled_backed_tick :
    InsertsSucceed calmEnv ∧ Backed calmEnv stmStatic.gtfsFiles stmStatic.bucket ∧
      Backed calmEnv (runEnabled calmEnv stmStatic [.tick, .request ⟨"POST", "/log", none, .ok .null⟩]).gtfsFiles
        (runEnabled calmEnv stmStatic [.tick, .request ⟨"POST", "/log", none, .ok .null⟩]).bucket :=
  have hins : InsertsSucceed calmEnv := fun _ _ => rfl
  have hw : Backed calmEnv stmStatic.gtfsFiles stmStatic.bucket := fun _ h => absurd h (List.not_mem_nil _)
  ⟨hins, hw, runEnabled_backed calmEnv hins stmStatic _ hw⟩

end GtfsStatic

end Transit
