import Transit.Ingest.Store

/-!
# One feed at a time

`scheduled` runs each feed's work in its own `try`, and its `catch` writes the error to
`ingest_log`.  That `log` is an awaited D1 call outside any `try`: when it throws as well, as a
D1 write does once the write quota is spent, the exception leaves the loop, and the feeds after
the failing one are never fetched.  When every log call succeeds, the failures of one feed stop
nothing: the run fetches every active feed, in order, unless the CPU limit kills it in a parse.

## Main definitions

* `World.fetches`, `fetchOf` — the fetches made so far, and the fetch of a feed.
* `NoFetch` — the computations that make no fetch.
* `LogsSucceed` — every log call succeeds.

## Main results

* `ingestFeed_fetches` — a feed's work makes exactly its own fetch, however it ends.
* `ingestFeeds_fetches` — with logs succeeding, the loop fetches every feed in order, or a prefix
  of them before the invocation is killed.
* `scheduled_logFailure` — two feeds, the first fetch and its log failing: the second feed is
  never fetched.
-/

namespace Transit

/-- The fetches made so far, by URL and headers. -/
def World.fetches (w : World) : List (String × Headers) := w.calls.filterMap Call.fetched?

/-- The fetch of a feed. -/
def fetchOf (env : Env) (f : FeedEndpoint) : String × Headers :=
  (f.url, buildHeaders env f.providerKey)

/-- A computation that makes no fetch, however it ends. -/
def NoFetch {α : Type} (x : Worker α) : Prop := ∀ env w, (x env w).world.fetches = w.fetches

/-- Every call that writes `ingest_log` succeeds. -/
def LogsSucceed (env : Env) : Prop := ∀ n c, Call.isLog c → env.fails n c = none

/-! ### Computations without a fetch -/

section NoFetch

variable {α β : Type}

theorem NoFetch.pure (a : α) : NoFetch (pure a : Worker α) := fun _ _ => rfl

theorem NoFetch.read (f : Env → World → α) : NoFetch (Worker.read f) := fun _ _ => rfl

theorem NoFetch.modify {f : World → World} (hf : ∀ w, (f w).calls = w.calls) :
    NoFetch (Worker.modify f) :=
  fun _ w => congrArg (List.filterMap Call.fetched?) (hf w)

theorem NoFetch.bind {x : Worker α} {f : α → Worker β} (hx : NoFetch x) (hf : ∀ a, NoFetch (f a)) :
    NoFetch (x >>= f) := by
  intro env w
  have h := hx env w
  simp only [Worker.bind_apply]
  cases hr : x env w with
  | ok a w' => rw [hr] at h; exact (hf a env w').trans h
  | throw e w' => rw [hr] at h; exact h
  | killed w' => rw [hr] at h; exact h

theorem NoFetch.call_bind {c : Call} (hc : c.fetched? = none) {f : Unit → Worker β}
    (hf : ∀ a, NoFetch (f a)) : NoFetch (call c >>= f) := by
  refine NoFetch.bind (fun env w => ?_) hf
  unfold Transit.call
  split <;> simp [World.fetches, Result.world, hc]

theorem log_noFetch (level : String) (msg : LogMessage) (p f : Option String)
    (d : Option SaveDetail) : NoFetch (log level msg p f d) :=
  NoFetch.call_bind (by rfl) fun _ => .modify fun _ => rfl

theorem arrayBuffer_noFetch (res : Response) : NoFetch (arrayBuffer res) :=
  NoFetch.call_bind (by rfl) fun _ => .pure _

theorem selectRaw_noFetch (table : RawTable) (pkey hash : String) :
    NoFetch (selectRaw table pkey hash) :=
  NoFetch.call_bind (by rfl) fun _ => .read _

theorem r2Put_noFetch (key : R2Key) (ab : ArrayBuffer) (t : Instant) : NoFetch (r2Put key ab t) :=
  NoFetch.call_bind (by rfl) fun _ => .modify fun _ => rfl

theorem insertRaw_noFetch (row : RawRow) : NoFetch (insertRaw row) :=
  NoFetch.call_bind (by rfl) fun _ env w => by split <;> rfl

theorem saveRT_noFetch (pkey feedId kind : String) (ab : ArrayBuffer) :
    NoFetch (saveRT pkey feedId kind ab) := by
  have hparse : NoFetch (parseMeta ab) := fun env w => by
    simp only [parseMeta]
    split <;> rfl
  have hdate : NoFetch newDate := fun _ _ => rfl
  refine (NoFetch.read _).bind fun hash => (selectRaw_noFetch _ _ _).bind fun b => ?_
  split
  · exact .pure _
  exact (NoFetch.pure _).bind fun _ => hparse.bind fun m => hdate.bind fun t =>
    (r2Put_noFetch _ _ _).bind fun _ => (insertRaw_noFetch _).bind fun _ =>
      (log_noFetch _ _ _ _ _).bind fun _ => .pure _

end NoFetch

/-! ### The fetches of a run -/

section Fetches

variable {env : Env}

theorem fetch_fetches (url : String) (headers : Headers) (w : World) :
    (fetch url headers env w).world.fetches = w.fetches ++ [(url, headers)] := by
  simp only [fetch, Worker.bind_apply, Worker.read_apply, Result.ok_bind, call]
  split <;> simp [World.fetches, Result.world, Call.fetched?]

/-- **A feed's work makes exactly its own fetch**, however it ends. -/
theorem ingestFeed_fetches (f : FeedEndpoint) (w : World) :
    (ingestFeed f env w).world.fetches = w.fetches ++ [fetchOf env f] := by
  have hf := @fetch_fetches env f.url (buildHeaders env f.providerKey) w
  simp only [ingestFeed, Worker.bind_apply, Worker.read_apply, Result.ok_bind]
  rw [fetchOf]
  cases hr : fetch f.url (buildHeaders env f.providerKey) env w with
  | ok res w₁ =>
    rw [hr] at hf
    simp only [Result.ok_bind]
    rw [← show w₁.fetches = _ from hf]
    split
    · exact log_noFetch _ _ _ _ _ env w₁
    · exact ((arrayBuffer_noFetch res).bind fun ab => (saveRT_noFetch _ _ _ ab).bind
        fun _ => .pure _) env w₁
  | throw e w₁ => rw [hr] at hf; exact hf
  | killed w₁ => rw [hr] at hf; exact hf

theorem log_ok (hl : LogsSucceed env) (level : String) (msg : LogMessage) (p f : Option String)
    (d : Option SaveDetail) (w : World) :
    ∃ w', log level msg p f d env w = .ok () w' ∧ w'.fetches = w.fetches := by
  have h := log_noFetch level msg p f d env w
  simp only [log, Worker.bind_apply, call_of_none (hl _ (.log _) rfl), Result.ok_bind,
    Worker.modify_apply] at h ⊢
  exact ⟨_, rfl, h⟩

/-- **With logs succeeding, the loop isolates the feeds**: it fetches every feed in order, or,
when the CPU limit kills the invocation, the feeds of a prefix. -/
theorem ingestFeeds_fetches (hl : LogsSucceed env) :
    ∀ (fs : List FeedEndpoint) (w : World),
      (∃ w', ingestFeeds fs env w = .ok () w' ∧ w'.fetches = w.fetches ++ fs.map (fetchOf env)) ∨
      (∃ gs w', gs <+: fs ∧ ingestFeeds fs env w = .killed w' ∧
        w'.fetches = w.fetches ++ gs.map (fetchOf env))
  | [], w => .inl ⟨w, rfl, by simp⟩
  | f :: fs, w => by
    have hf := @ingestFeed_fetches env f w
    simp only [ingestFeeds, Worker.bind_apply, Worker.tryCatch]
    -- after the feed's own work, the loop goes on from a world with its fetch
    have step : ∀ w₁ : World, w₁.fetches = w.fetches ++ [fetchOf env f] →
        (∃ w', ingestFeeds fs env w₁ = .ok () w' ∧
          w'.fetches = w.fetches ++ (f :: fs).map (fetchOf env)) ∨
        (∃ gs w', gs <+: f :: fs ∧ ingestFeeds fs env w₁ = .killed w' ∧
          w'.fetches = w.fetches ++ gs.map (fetchOf env)) := by
      intro w₁ h₁
      rcases ingestFeeds_fetches hl fs w₁ with ⟨w', he, hw'⟩ | ⟨gs, w', hgs, he, hw'⟩
      · exact .inl ⟨w', he, by simp [hw', h₁]⟩
      · exact .inr ⟨f :: gs, w', List.cons_prefix_cons.2 ⟨rfl, hgs⟩, he, by simp [hw', h₁]⟩
    cases hr : ingestFeed f env w with
    | ok u w₁ =>
      rw [hr] at hf
      exact step w₁ hf
    | throw e w₁ =>
      rw [hr] at hf
      obtain ⟨w₂, he, h₂⟩ := log_ok hl "ERROR" (.error (errorText e)) (some f.providerKey)
        (some f.feedId) none w₁
      simp only [he, Result.ok_bind]
      exact step w₂ (h₂.trans hf)
    | killed w₁ =>
      rw [hr] at hf
      exact .inr ⟨[f], w₁, List.cons_prefix_cons.2 ⟨rfl, List.nil_prefix⟩, rfl, by simpa using hf⟩

/-- **A run fetches every active feed, in order**, when its `SELECT` and every log call
succeed, unless the CPU limit kills it, and then it has fetched a prefix of them. -/
theorem scheduled_isolates (w : World) (hsel : env.fails w.calls.length .selectFeeds = none)
    (hl : LogsSucceed env) :
    (∃ w', scheduled env w = .ok () w' ∧ w'.fetches = w.fetches ++ w.activeFeeds.map (fetchOf env)) ∨
    (∃ gs w', gs <+: w.activeFeeds ∧ scheduled env w = .killed w' ∧
      w'.fetches = w.fetches ++ gs.map (fetchOf env)) := by
  simp only [scheduled, selectFeeds, Worker.bind_apply, call_of_none hsel, Result.ok_bind,
    Worker.read_apply]
  have h₀ : ({ w with calls := w.calls ++ [.selectFeeds] } : World).fetches = w.fetches := by
    simp [World.fetches, Call.fetched?]
  rcases ingestFeeds_fetches hl w.activeFeeds { w with calls := w.calls ++ [.selectFeeds] } with
    ⟨w', he, hw'⟩ | ⟨gs, w', hgs, he, hw'⟩
  · exact .inl ⟨w', he, by rw [hw', h₀]⟩
  · exact .inr ⟨gs, w', hgs, he, by rw [hw', h₀]⟩

end Fetches

/-! ### The failing log -/

/-- The STM vehicle positions feed. -/
def stmVehiclePositions : FeedEndpoint :=
  ⟨"2", "stm", "gtfsrt_vehicle_positions", "stm-vehicle-positions", 1⟩

/-- Two active feeds. -/
def twoFeeds : World := { World.init with feedEndpoints := [stmTripUpdates, stmVehiclePositions] }

/-- Every fetch rejects, and so does every write to `ingest_log`. -/
def logFailEnv : Env :=
  { fallBackEnv with
    fails := fun _ c =>
      match c with
      | .fetch .. => some ⟨"TypeError", "fetch failed"⟩
      | .log _ => some ⟨"Error", "D1_ERROR: Exceeded maximum daily writes"⟩
      | _ => none }

/-- The same fetches with every log call succeeding. -/
def fetchFailEnv : Env :=
  { logFailEnv with
    fails := fun _ c =>
      match c with
      | .fetch .. => some ⟨"TypeError", "fetch failed"⟩
      | _ => none }

/-- With logging intact, both feeds are fetched although both fetches fail. -/
theorem scheduled_isolates_fetchFail :
    fetchFailEnv.fails twoFeeds.calls.length .selectFeeds = none ∧ LogsSucceed fetchFailEnv ∧
      ((∃ w', scheduled fetchFailEnv twoFeeds = .ok () w' ∧
          w'.fetches = twoFeeds.fetches ++ twoFeeds.activeFeeds.map (fetchOf fetchFailEnv)) ∨
        (∃ gs w', gs <+: twoFeeds.activeFeeds ∧ scheduled fetchFailEnv twoFeeds = .killed w' ∧
          w'.fetches = twoFeeds.fetches ++ gs.map (fetchOf fetchFailEnv))) :=
  have hl : LogsSucceed fetchFailEnv := fun _ c hc => by
    cases c <;> first | rfl | simp [Call.isLog] at hc
  ⟨rfl, hl, scheduled_isolates twoFeeds rfl hl⟩

/-- **A failed log stops the run**: the first fetch rejects, the log of its error rejects, and
`scheduled` throws without fetching the second feed. -/
theorem scheduled_logFailure :
    (∃ e w', scheduled logFailEnv twoFeeds = .throw e w') ∧
      (scheduled logFailEnv twoFeeds).world.fetches = [fetchOf logFailEnv stmTripUpdates] :=
  ⟨⟨_, _, rfl⟩, by decide⟩

end Transit
