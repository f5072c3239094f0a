import Transit.Ingest.Worker

/-!
# The snapshot store

What the raw tables and the bucket hold after any number of runs of `scheduled`, when every
call to D1 and R2 succeeds.

Each run changes the store only through saves, and a save happens only after the dedupe
`SELECT` found no row of the provider with the body's hash.  So the rows of a provider and table
have distinct hashes, every object has the row of its save, and (from that) no two objects of a
provider and kind hold the same body.  That every row still has its object needs more: the save
writes to a path named by the Montreal local time to the second, with no UTC offset, so a later
save at the same local second, which the autumn change makes possible an hour later, replaces
the earlier object.

## Main definitions

* `StoreSucceeds` — every D1 and R2 call succeeds.
* `StoreStep`, `Saved` — what one computation of the worker can do to the store.
* `StoreInv`, `RawBacked` — the invariants.
* `StampsDistinct` — the instants of the first `n` reads have distinct Montreal timestamps.
* `SnapshotStore` — the three properties, for a provider and a kind.

## Main results

* `saveRT_storeStep`, `scheduled_reach` — a run is a sequence of store steps.
* `storeInv_reach`, `rawBacked_reach` — the invariants hold along them.
* `snapshotStore_runs` — the snapshot store after any runs.
-/

namespace Transit

open Relation

/-- Every call to D1 and R2 succeeds. -/
def StoreSucceeds (env : Env) : Prop := ∀ n c, Call.isStore c → env.fails n c = none

/-- The two realtime feed kinds, one raw table each. -/
def KnownKind (k : String) : Prop := k = "gtfsrt_trip_updates" ∨ k = "gtfsrt_vehicle_positions"

instance : DecidablePred KnownKind := fun k => inferInstanceAs (Decidable (k = _ ∨ k = _))

/-- The two kinds go to two tables. -/
theorem KnownKind.eq_of_rawTable {a b : String} (ha : KnownKind a) (hb : KnownKind b)
    (h : rawTable a = rawTable b) : a = b := by
  rcases ha with rfl | rfl <;> rcases hb with rfl | rfl <;> first | rfl | exact absurd h (by decide)

/-! ### Steps of the store -/

/-- The store is unchanged: the raw rows, the bucket, and the clock. -/
def Frame (w w' : World) : Prop := w'.raw = w.raw ∧ w'.bucket = w.bucket ∧ w'.reads = w.reads

/-- What a save of body `ab` for provider `pkey` and kind `kind`, with metadata `m`, does. -/
structure Saved (env : Env) (pkey feedId kind : String) (ab : ArrayBuffer) (m : FeedMeta)
    (w w' : World) : Prop where
  fresh : w.hasRaw (rawTable kind) pkey (env.sha256Hex ab.data) = false
  raw : w'.raw = w.raw ++
    [⟨rawTable kind, pkey, feedId, feedTsLocal m.headerTsSec, env.sha256Hex ab.data, m.entityCount⟩]
  bucket : w'.bucket =
    putObject w.bucket ⟨rtPath pkey kind (env.clock w.reads), ab.data, env.clock w.reads⟩
  reads : w'.reads = w.reads + 1

/-- One computation's effect on the store: none, or a save of a kind allowed by `K`. -/
inductive StoreStep (env : Env) (K : String → Prop) (w w' : World) : Prop
  | frame (h : Frame w w')
  | save (pkey feedId kind : String) (ab : ArrayBuffer) (m : FeedMeta) (hk : K kind)
      (h : Saved env pkey feedId kind ab m w w')

/-- A world reached from another by store steps. -/
abbrev Reach (env : Env) (K : String → Prop) : World → World → Prop :=
  ReflTransGen (StoreStep env K)

section Reach

variable {env : Env} {K : String → Prop} {α β : Type}

theorem Reach.of_frame {w w' : World} (h : Frame w w') : Reach env K w w' :=
  .single (.frame h)

theorem Reach.of_frame_trans {w w₁ w' : World} (h' : Reach env K w₁ w') (h : Frame w w₁) :
    Reach env K w w' :=
  .head (.frame h) h'

theorem Result.reach_bind {w : World} {x : Result α} {k : α → World → Result β}
    (hx : Reach env K w x.world) (hk : ∀ a w', x = .ok a w' → Reach env K w' (k a w').world) :
    Reach env K w (x.bind k).world := by
  cases x with
  | ok a w' => exact hx.trans (hk a w' rfl)
  | throw e w' => exact hx
  | killed w' => exact hx

theorem Worker.reach_tryCatch {w : World} {x : Worker α} {h : JsError → Worker α}
    (hx : Reach env K w (x env w).world)
    (hh : ∀ e w', x env w = .throw e w' → Reach env K w' (h e env w').world) :
    Reach env K w (Worker.tryCatch x h env w).world := by
  unfold Worker.tryCatch
  split
  · rename_i e w' hr
    exact (hr ▸ hx).trans (hh e w' hr)
  · exact hx

end Reach

/-! ### The calls that leave the store alone -/

section Frame

variable {env : Env} {w : World}

theorem frame_log (level : String) (msg : LogMessage) (p f : Option String)
    (d : Option SaveDetail) : Frame w (log level msg p f d env w).world := by
  simp only [log, Worker.bind_apply, Worker.pure_apply, Result.ok_bind, call]
  split <;> exact ⟨rfl, rfl, rfl⟩

theorem frame_fetch (url : String) (headers : Headers) : Frame w (fetch url headers env w).world := by
  simp only [fetch, Worker.bind_apply, Worker.read_apply, Result.ok_bind, call]
  split <;> exact ⟨rfl, rfl, rfl⟩

theorem frame_arrayBuffer (res : Response) : Frame w (arrayBuffer res env w).world := by
  simp only [arrayBuffer, Worker.bind_apply, Worker.pure_apply, call]
  split <;> exact ⟨rfl, rfl, rfl⟩

theorem frame_selectFeeds : Frame w (selectFeeds env w).world := by
  simp only [selectFeeds, Worker.bind_apply, Worker.read_apply, call]
  split <;> exact ⟨rfl, rfl, rfl⟩

end Frame

/-! ### `saveRT` when D1 and R2 succeed -/

section Save

variable {env : Env} {w : World} {pkey feedId kind : String} {ab : ArrayBuffer}

theorem call_store (hs : StoreSucceeds env) {c : Call} (hc : c.isStore = true) :
    call c env w = .ok () { w with calls := w.calls ++ [c] } :=
  call_of_none (hs _ c hc)

theorem selectRaw_ok (hs : StoreSucceeds env) (table : RawTable) (pkey hash : String) :
    selectRaw table pkey hash env w =
      .ok (w.hasRaw table pkey hash) { w with calls := w.calls ++ [.selectRaw table pkey hash] } := by
  simp only [selectRaw, Worker.bind_apply, call_store hs, Call.isStore, Result.ok_bind,
    Worker.read_apply, World.hasRaw]

/-- A body whose hash the table holds is skipped, and nothing but the `SELECT` is done. -/
theorem saveRT_seen (hs : StoreSucceeds env)
    (h : w.hasRaw (rawTable kind) pkey (env.sha256Hex ab.data) = true) :
    saveRT pkey feedId kind ab env w = .ok .skipped
      { w with calls := w.calls ++ [.selectRaw (rawTable kind) pkey (env.sha256Hex ab.data)] } := by
  simp only [saveRT, Worker.bind_apply, Worker.read_apply, Result.ok_bind, selectRaw_ok hs,
    World.hasRaw] at h ⊢
  simp only [h, if_true, Worker.pure_apply]

/-- The row a save inserts. -/
def savedRow (env : Env) (pkey feedId kind : String) (ab : ArrayBuffer) (m : FeedMeta) : RawRow :=
  ⟨rawTable kind, pkey, feedId, feedTsLocal m.headerTsSec, env.sha256Hex ab.data, m.entityCount⟩

/-- The world after a save: the object, the row and the log line written, four calls made and
one instant read. -/
def savedWorld (env : Env) (w : World) (pkey feedId kind : String) (ab : ArrayBuffer)
    (m : FeedMeta) : World :=
  let path := rtPath pkey kind (env.clock w.reads)
  let row := savedRow env pkey feedId kind ab m
  let line : LogRow := ⟨some pkey, some feedId, "INFO", .saved path,
    some ⟨path, ab.data.length, m.entityCount, row.feedTs⟩⟩
  { w with
    raw := w.raw ++ [row]
    bucket := putObject w.bucket ⟨path, ab.data, env.clock w.reads⟩
    ingestLog := w.ingestLog ++ [line]
    calls := w.calls ++ [.selectRaw (rawTable kind) pkey row.hashSha256, .put path ab.data,
      .insertRaw row, .log line]
    reads := w.reads + 1 }

@[simp] theorem savedWorld_calls_length (m : FeedMeta) :
    (savedWorld env w pkey feedId kind ab m).calls.length = w.calls.length + 4 := by
  simp [savedWorld]

theorem saved_savedWorld {m : FeedMeta}
    (h : w.hasRaw (rawTable kind) pkey (env.sha256Hex ab.data) = false) :
    Saved env pkey feedId kind ab m w (savedWorld env w pkey feedId kind ab m) :=
  ⟨h, rfl, rfl, rfl⟩

/-- A new body whose parse returns is written to R2 and to its table. -/
theorem saveRT_new (hs : StoreSucceeds env)
    (h : w.hasRaw (rawTable kind) pkey (env.sha256Hex ab.data) = false) {m : FeedMeta}
    (hm : parseFeedMeta env.budget ab = .ret m) :
    saveRT pkey feedId kind ab env w =
      .ok (.saved (rtPath pkey kind (env.clock w.reads))) (savedWorld env w pkey feedId kind ab m) := by
  simp only [saveRT, Worker.bind_apply, Worker.read_apply, Result.ok_bind, selectRaw_ok hs,
    World.hasRaw] at h ⊢
  simp only [h, Bool.false_eq_true, if_false, Worker.bind_apply, Worker.pure_apply, Result.ok_bind,
    parseMeta, hm, newDate, r2Put, insertRaw, log, Worker.modify_apply, call_store hs, Call.isStore,
    World.hasRaw, Bool.and_false, savedWorld, savedRow, List.append_assoc, List.singleton_append,
    List.cons_append, List.nil_append]

/-- A new body whose parse does not return leaves the store alone. -/
theorem saveRT_unparsed (hs : StoreSucceeds env)
    (h : w.hasRaw (rawTable kind) pkey (env.sha256Hex ab.data) = false)
    (hm : ∀ m, parseFeedMeta env.budget ab ≠ .ret m) :
    Frame w (saveRT pkey feedId kind ab env w).world := by
  simp only [saveRT, Worker.bind_apply, Worker.read_apply, Result.ok_bind, selectRaw_ok hs,
    World.hasRaw] at h ⊢
  simp only [h, Bool.false_eq_true, if_false, Worker.bind_apply, Worker.pure_apply, Result.ok_bind,
    parseMeta]
  cases hp : parseFeedMeta env.budget ab with
  | ret m => exact absurd hp (hm m)
  | error e => exact ⟨rfl, rfl, rfl⟩
  | outOfFuel => exact ⟨rfl, rfl, rfl⟩

variable {K : String → Prop}

/-- **`saveRT` is one store step**: a skip, a save, or a parse that does not return. -/
theorem saveRT_storeStep (hs : StoreSucceeds env) (hk : K kind) :
    StoreStep env K w (saveRT pkey feedId kind ab env w).world := by
  cases hr : w.hasRaw (rawTable kind) pkey (env.sha256Hex ab.data)
  · by_cases hm : ∃ m, parseFeedMeta env.budget ab = .ret m
    · obtain ⟨m, hm⟩ := hm
      rw [saveRT_new hs hr hm]
      exact .save _ _ _ _ _ hk (saved_savedWorld hr)
    · exact .frame (saveRT_unparsed hs hr fun m h => hm ⟨m, h⟩)
  · rw [saveRT_seen hs hr]
    exact .frame ⟨rfl, rfl, rfl⟩

end Save

/-! ### Runs -/

section Run

variable {env : Env} {K : String → Prop}

theorem ingestFeed_reach (hs : StoreSucceeds env) (f : FeedEndpoint) (hk : K f.feedKind) (w : World) :
    Reach env K w (ingestFeed f env w).world := by
  simp only [ingestFeed, Worker.bind_apply, Worker.read_apply, Result.ok_bind]
  refine Result.reach_bind (.of_frame (frame_fetch _ _)) fun res w₁ _ => ?_
  split
  · exact .of_frame (frame_log _ _ _ _ _)
  · refine Result.reach_bind (.of_frame (frame_arrayBuffer _)) fun ab w₂ _ => ?_
    exact Result.reach_bind (.single (saveRT_storeStep hs hk)) fun _ _ _ => .refl

theorem ingestFeeds_reach (hs : StoreSucceeds env) :
    ∀ (fs : List FeedEndpoint), (∀ f ∈ fs, K f.feedKind) → ∀ w, Reach env K w (ingestFeeds fs env w).world
  | [], _, _ => .refl
  | f :: fs, hk, w => by
    simp only [ingestFeeds, Worker.bind_apply]
    refine Result.reach_bind (Worker.reach_tryCatch (ingestFeed_reach hs f (hk f (.head _)) w)
      fun _ _ _ => .of_frame (frame_log _ _ _ _ _)) fun _ w' _ => ?_
    exact ingestFeeds_reach hs fs (fun g hg => hk g (.tail _ hg)) w'

/-- A run of `scheduled` saves only feeds of its table. -/
theorem scheduled_reach (hs : StoreSucceeds env) (w : World) (hk : ∀ f ∈ w.feedEndpoints, K f.feedKind) :
    Reach env K w (scheduled env w).world := by
  simp only [scheduled, selectFeeds, Worker.bind_apply, call]
  split
  · exact .of_frame ⟨rfl, rfl, rfl⟩
  · simp only [Result.ok_bind, Worker.read_apply]
    exact .of_frame_trans (ingestFeeds_reach hs _ (fun f hf => hk f (List.mem_filter.1 hf).1) _)
      ⟨rfl, rfl, rfl⟩

theorem runs_reach (hs : StoreSucceeds env) :
    ∀ (tables : List (List FeedEndpoint)), (∀ fs ∈ tables, ∀ f ∈ fs, K f.feedKind) →
      ∀ w, Reach env K w (runs env w tables)
  | [], _, _ => .refl
  | fs :: tables, hk, w =>
    .of_frame_trans ((scheduled_reach hs { w with feedEndpoints := fs } (hk fs (.head _))).trans
      (runs_reach hs tables (fun gs hg => hk gs (.tail _ hg)) (runScheduled env w fs))) ⟨rfl, rfl, rfl⟩

end Run

/-! ### A run in which every call succeeds -/

/-- Every call succeeds. -/
def AllSucceed (env : Env) : Prop := ∀ n c, env.fails n c = none

section Succeed

variable {env : Env} (ha : AllSucceed env) {w : World}
include ha

theorem AllSucceed.storeSucceeds : StoreSucceeds env := fun n c _ => ha n c

/-- A feed whose fetch returns a new body that parses is saved. -/
theorem ingestFeed_saved (f : FeedEndpoint) (hok : (env.respond w.calls.length).ok = true)
    {m : FeedMeta}
    (hnew : w.hasRaw (rawTable f.feedKind) f.providerKey
      (env.sha256Hex (env.respond w.calls.length).body.data) = false)
    (hm : parseFeedMeta env.budget (env.respond w.calls.length).body = .ret m) :
    ingestFeed f env w = .ok () (savedWorld env
      { w with calls := w.calls ++ [.fetch f.url (buildHeaders env f.providerKey), .arrayBuffer] }
      f.providerKey f.feedId f.feedKind (env.respond w.calls.length).body m) := by
  simp only [ingestFeed, fetch, arrayBuffer, Worker.bind_apply, Worker.read_apply, Worker.pure_apply,
    call_of_none (ha _ _), Result.ok_bind, hok, Bool.not_true, Bool.false_eq_true, if_false]
  rw [saveRT_new ha.storeSucceeds ?_ hm]
  · simp only [Result.ok_bind, Worker.pure_apply, List.append_assoc, List.singleton_append]
  · exact hnew

/-- A run over one active realtime feed whose fetch returns a new body that parses saves it. -/
theorem runScheduled_saved (f : FeedEndpoint) (hf : (f.isActive = 1 && likeGtfsrt f.feedKind) = true)
    (hok : (env.respond (w.calls.length + 1)).ok = true) {m : FeedMeta}
    (hnew : w.hasRaw (rawTable f.feedKind) f.providerKey
      (env.sha256Hex (env.respond (w.calls.length + 1)).body.data) = false)
    (hm : parseFeedMeta env.budget (env.respond (w.calls.length + 1)).body = .ret m) :
    runScheduled env w [f] = savedWorld env
      { w with
        feedEndpoints := [f]
        calls := w.calls ++ [.selectFeeds, .fetch f.url (buildHeaders env f.providerKey), .arrayBuffer] }
      f.providerKey f.feedId f.feedKind (env.respond (w.calls.length + 1)).body m := by
  simp only [runScheduled, scheduled, selectFeeds, ingestFeeds, Worker.bind_apply, Worker.read_apply,
    call_of_none (ha _ _), Result.ok_bind, World.activeFeeds, List.filter_cons, List.filter_nil, hf,
    if_true]
  rw [Worker.tryCatch_of_ok (ingestFeed_saved (m := m) ha f ?_ ?_ ?_)]
  · simp only [Result.ok_bind, Worker.pure_apply, Result.world, List.append_assoc,
      List.singleton_append, List.length_append, List.length_singleton]
  all_goals simpa only [List.length_append, List.length_singleton]

end Succeed

/-! ### The invariants -/

/-- The rows of a raw table for a provider. -/
def World.rowsOf (w : World) (t : RawTable) (p : String) : List RawRow :=
  w.raw.filter fun r => r.table = t && r.providerKey = p

/-- The objects under `gtfs-rt/p/k/`. -/
def World.objectsUnder (w : World) (p k : String) : List R2Object :=
  w.bucket.filter fun o => o.key.provider = p && o.key.kind = k

/-- (a) The rows `saveRT` selects for `(p, k)` have distinct hashes. -/
def HashesDistinct (w : World) (p k : String) : Prop :=
  ((w.rowsOf (rawTable k) p).map (·.hashSha256)).Nodup

/-- (b) Each of those rows has the hash of an object under `gtfs-rt/p/k/`. -/
def RowsBacked (env : Env) (w : World) (p k : String) : Prop :=
  ∀ r ∈ w.rowsOf (rawTable k) p, ∃ o ∈ w.objectsUnder p k, env.sha256Hex o.body = r.hashSha256

/-- (c) No two objects under `gtfs-rt/p/k/` hold the same body. -/
def ContentsDistinct (w : World) (p k : String) : Prop :=
  ((w.objectsUnder p k).map (·.body)).Nodup

/-- What every store step keeps. -/
structure StoreInv (env : Env) (w : World) : Prop where
  hashes : ∀ t p, ((w.rowsOf t p).map (·.hashSha256)).Nodup
  /-- Every object has the row of its save. -/
  recorded : ∀ o ∈ w.bucket, w.hasRaw (rawTable o.key.kind) o.key.provider (env.sha256Hex o.body)
  contents : ∀ p k, ContentsDistinct w p k
  /-- Every object is named by an instant already read. -/
  stamps : ∀ o ∈ w.bucket, ∃ i < w.reads, o.key.stamp = fmtISOMontreal (env.clock i)

/-- Every row has an object of its provider, of a known kind of its table, with its hash. -/
def RawBacked (env : Env) (w : World) : Prop :=
  ∀ r ∈ w.raw, ∃ o ∈ w.bucket, o.key.provider = r.providerKey ∧ rawTable o.key.kind = r.table ∧
    KnownKind o.key.kind ∧ env.sha256Hex o.body = r.hashSha256

/-- The instants of the first `n` clock reads have pairwise distinct Montreal timestamps. -/
def StampsDistinct (env : Env) (n : ℕ) : Prop :=
  ∀ i < n, ∀ j < n, fmtISOMontreal (env.clock i) = fmtISOMontreal (env.clock j) → i = j

instance (env : Env) (n : ℕ) : Decidable (StampsDistinct env n) :=
  inferInstanceAs (Decidable (∀ i < n, ∀ j < n, _))

theorem StampsDistinct.mono {env : Env} {m n : ℕ} (h : StampsDistinct env n) (hmn : m ≤ n) :
    StampsDistinct env m :=
  fun i hi j hj => h i (by omega) j (by omega)

/-- Only saves read the clock, once each. -/
theorem StoreStep.reads_le {env : Env} {K : String → Prop} {w w' : World}
    (hs : StoreStep env K w w') : w.reads ≤ w'.reads := by
  cases hs with
  | frame hf => exact hf.2.2.ge
  | save _ _ _ _ _ _ hsv => exact hsv.reads ▸ Nat.le_succ _

section Inv

variable {env : Env} {w w' : World}

theorem storeInv_init : StoreInv env World.init :=
  ⟨fun _ _ => List.nodup_nil, fun _ h => (nomatch h), fun _ _ => List.nodup_nil,
    fun _ h => (nomatch h)⟩

theorem rawBacked_init : RawBacked env World.init := fun _ h => (nomatch h)

theorem StoreInv.frame (h : StoreInv env w) (hf : Frame w w') : StoreInv env w' := by
  obtain ⟨hr, hb, hreads⟩ := hf
  obtain ⟨h₁, h₂, h₃, h₄⟩ := h
  refine ⟨?_, ?_, ?_, ?_⟩ <;>
    simpa only [World.rowsOf, World.hasRaw, World.objectsUnder, ContentsDistinct, hr, hb, hreads]

theorem RawBacked.frame (h : RawBacked env w) (hf : Frame w w') : RawBacked env w' := by
  obtain ⟨hr, hb, -⟩ := hf
  simpa only [RawBacked, hr, hb] using h

theorem mem_putObject {b : List R2Object} {n o : R2Object} :
    o ∈ putObject b n ↔ (o ∈ b ∧ o.key ≠ n.key) ∨ o = n := by
  simp [putObject]

variable {pkey feedId kind : String} {ab : ArrayBuffer} {m : FeedMeta}

theorem Saved.hasRaw (hsv : Saved env pkey feedId kind ab m w w') (t : RawTable) (p h : String) :
    w'.hasRaw t p h = (w.hasRaw t p h ||
      (rawTable kind = t && pkey = p && env.sha256Hex ab.data = h)) := by
  simp only [World.hasRaw, hsv.raw, List.any_append, List.any_cons, List.any_nil, Bool.or_false]

theorem Saved.rowsOf (hsv : Saved env pkey feedId kind ab m w w') (t : RawTable) (p : String) :
    w'.rowsOf t p = w.rowsOf t p ++
      if rawTable kind = t ∧ pkey = p then
        [⟨rawTable kind, pkey, feedId, feedTsLocal m.headerTsSec, env.sha256Hex ab.data, m.entityCount⟩]
      else [] := by
  simp only [World.rowsOf, hsv.raw, List.filter_append, List.filter_cons, List.filter_nil,
    Bool.and_eq_true, decide_eq_true_eq]

/-- An object of the provider and kind of a save never holds its body: its row would have
stopped the save. -/
theorem StoreInv.body_ne (h : StoreInv env w) (hsv : Saved env pkey feedId kind ab m w w')
    {o : R2Object} (ho : o ∈ w.bucket) (hp : o.key.provider = pkey) (hk : o.key.kind = kind) :
    o.body ≠ ab.data := by
  intro hb
  have := h.recorded o ho
  rw [hp, hk, hb, hsv.fresh] at this
  exact Bool.false_ne_true this

theorem hasRaw_of_mem_rowsOf {t : RawTable} {p : String} {r : RawRow} (hr : r ∈ w.rowsOf t p) :
    w.hasRaw t p r.hashSha256 = true := by
  simp only [World.rowsOf, List.mem_filter, Bool.and_eq_true, decide_eq_true_eq] at hr
  simp only [World.hasRaw, List.any_eq_true, Bool.and_eq_true, decide_eq_true_eq]
  exact ⟨r, hr.1, hr.2, rfl⟩

theorem Saved.objectsUnder (hsv : Saved env pkey feedId kind ab m w w') (p k : String) :
    w'.objectsUnder p k =
      (w.bucket.filter fun o => o.key ≠ rtPath pkey kind (env.clock w.reads)).filter
          (fun o => o.key.provider = p && o.key.kind = k) ++
        if pkey = p ∧ kind = k then
          [⟨rtPath pkey kind (env.clock w.reads), ab.data, env.clock w.reads⟩]
        else [] := by
  simp only [World.objectsUnder, hsv.bucket, putObject, List.filter_append, List.filter_cons,
    List.filter_nil, rtPath, Bool.and_eq_true, decide_eq_true_eq]

theorem StoreInv.save (h : StoreInv env w) (hsv : Saved env pkey feedId kind ab m w w') :
    StoreInv env w' where
  hashes t p := by
    rw [hsv.rowsOf]
    split_ifs with hc
    · obtain ⟨rfl, rfl⟩ := hc
      rw [List.map_append]
      refine List.nodup_append.2 ⟨h.hashes _ _, List.nodup_singleton _, ?_⟩
      simp only [List.map_cons, List.map_nil, List.disjoint_singleton, List.mem_map, not_exists,
        not_and]
      intro r hr heq
      have := hasRaw_of_mem_rowsOf hr
      rw [heq, hsv.fresh] at this
      exact Bool.false_ne_true this
    · simpa only [List.append_nil] using h.hashes t p
  recorded o ho := by
    rw [hsv.hasRaw]
    rcases mem_putObject.1 (hsv.bucket ▸ ho) with ⟨ho, -⟩ | rfl
    · simp only [h.recorded o ho, Bool.true_or]
    · simp only [rtPath, decide_True, Bool.and_self, Bool.or_true]
  contents p k := by
    have hsub : (((w.bucket.filter fun o => o.key ≠ rtPath pkey kind (env.clock w.reads)).filter
        fun o => o.key.provider = p && o.key.kind = k).map (·.body)).Nodup :=
      List.Nodup.sublist (((List.filter_sublist _).filter _).map _) (h.contents p k)
    unfold ContentsDistinct
    rw [hsv.objectsUnder, List.map_append]
    split_ifs with hc
    · obtain ⟨rfl, rfl⟩ := hc
      refine List.nodup_append.2 ⟨hsub, List.nodup_singleton _, ?_⟩
      simp only [List.map_cons, List.map_nil, List.disjoint_singleton, List.mem_map, List.mem_filter,
        Bool.and_eq_true, decide_eq_true_eq, not_exists, not_and]
      exact fun o ⟨⟨ho, _⟩, hp, hk⟩ => h.body_ne hsv ho hp hk
    · simpa only [List.map_nil, List.append_nil] using hsub
  stamps o ho := by
    rw [hsv.reads]
    rcases mem_putObject.1 (hsv.bucket ▸ ho) with ⟨ho, -⟩ | rfl
    · obtain ⟨i, hi, he⟩ := h.stamps o ho
      exact ⟨i, by omega, he⟩
    · exact ⟨w.reads, by omega, rfl⟩

/-- With distinct stamps, a save replaces no object, so every row keeps its object. -/
theorem RawBacked.save (hb : RawBacked env w) (h : StoreInv env w)
    (hst : StampsDistinct env w'.reads) (hk : KnownKind kind)
    (hsv : Saved env pkey feedId kind ab m w w') : RawBacked env w' := by
  intro r hr
  rw [hsv.raw, List.mem_append, List.mem_singleton] at hr
  rw [hsv.bucket]
  rcases hr with hr | rfl
  · obtain ⟨o, ho, hrest⟩ := hb r hr
    refine ⟨o, mem_putObject.2 (.inl ⟨ho, fun he => ?_⟩), hrest⟩
    obtain ⟨i, hi, hst'⟩ := h.stamps o ho
    have : i = w.reads := hst i (by rw [hsv.reads]; omega) w.reads (by rw [hsv.reads]; omega)
      (hst'.symm.trans (congrArg R2Key.stamp he))
    omega
  · exact ⟨_, mem_putObject.2 (.inr rfl), rfl, rfl, hk, rfl⟩

variable {K : String → Prop}

/-- **Every store step keeps `StoreInv`.** -/
theorem storeInv_reach (h : StoreInv env w) (hr : Reach env K w w') : StoreInv env w' := by
  induction hr with
  | refl => exact h
  | tail _ hs ih =>
    cases hs with
    | frame hf => exact ih.frame hf
    | save _ _ _ _ _ _ hsv => exact ih.save hsv

/-- **With distinct stamps on the reads made, saves of known kinds keep `RawBacked`.** -/
theorem rawBacked_reach (h : StoreInv env w) (hb : RawBacked env w)
    (hr : Reach env KnownKind w w') (hst : StampsDistinct env w'.reads) : RawBacked env w' := by
  induction hr with
  | refl => exact hb
  | tail hr' hs ih =>
    have ih := ih (hst.mono hs.reads_le)
    cases hs with
    | frame hf => exact ih.frame hf
    | save _ _ _ _ _ hk hsv => exact ih.save (storeInv_reach h hr') hst hk hsv

end Inv


/-! ### The snapshot store after any runs -/

/-- The three properties for every provider and known kind. -/
def SnapshotStore (env : Env) (w : World) : Prop :=
  ∀ p k, KnownKind k → HashesDistinct w p k ∧ RowsBacked env w p k ∧ ContentsDistinct w p k

theorem RawBacked.rowsBacked {env : Env} {w : World} (hb : RawBacked env w) {p k : String}
    (hk : KnownKind k) : RowsBacked env w p k := by
  intro r hr
  simp only [World.rowsOf, List.mem_filter, Bool.and_eq_true, decide_eq_true_eq] at hr
  obtain ⟨hr, ht, hp⟩ := hr
  obtain ⟨o, ho, hop, hot, hok, hh⟩ := hb r hr
  refine ⟨o, ?_, hh⟩
  simp only [World.objectsUnder, List.mem_filter, Bool.and_eq_true, decide_eq_true_eq]
  exact ⟨ho, hop.trans hp, hok.eq_of_rawTable hk (hot.trans ht)⟩

theorem toNat_charOfNat {n : ℕ} (h : n < 256) : (Char.ofNat n).toNat = n := by
  have hv : n.isValidChar := Or.inl (by omega)
  simp only [Char.ofNat, dif_pos hv, Char.ofNatAux, Char.toNat, UInt32.toNat]
  rfl

/-- An injective stand-in for `sha256Hex`: each byte as the character of its code. -/
def latin1 (b : List UInt8) : String := ⟨b.map fun x => Char.ofNat x.toNat⟩

theorem latin1_injective : Function.Injective latin1 := by
  intro a b h
  refine List.map_injective_iff.2 (fun x y hxy => ?_) (congrArg String.data h)
  have := congrArg Char.toNat hxy
  rw [toNat_charOfNat x.toNat_lt, toNat_charOfNat y.toNat_lt] at this
  exact UInt8.toNat.inj this

/-- The STM trip updates feed. -/
def stmTripUpdates : FeedEndpoint := ⟨"1", "stm", "gtfsrt_trip_updates", "stm-trip-updates", 1⟩

/-- A snapshot of one empty entity, and one of two. -/
def snapshotA : ArrayBuffer := ⟨[0x12, 0x00], by decide⟩

def snapshotB : ArrayBuffer := ⟨[0x12, 0x00, 0x12, 0x00], by decide⟩

/-- Runs over the STM trip updates feed at the instants of `clock`, every call succeeding, the
first run fetching `snapshotA` and every later one `snapshotB`. -/
def twoSnapshotsEnv (clock : ℕ → ℤ) : Env where
  STM_API_KEY := none
  uniqueHash := false
  sha256Hex := latin1
  budget := 16
  fails _ _ := none
  respond n := if n < 7 then ⟨200, "OK", snapshotA⟩ else ⟨200, "OK", snapshotB⟩
  clock := clock

/-- Two runs save both snapshots, `snapshotA` at the first instant and `snapshotB` at the
second. -/
theorem runs_twoSnapshots (c : ℕ → ℤ) :
    (runs (twoSnapshotsEnv c) World.init [[stmTripUpdates], [stmTripUpdates]]).raw =
        [savedRow (twoSnapshotsEnv c) "stm" "1" "gtfsrt_trip_updates" snapshotA ⟨1, none⟩,
          savedRow (twoSnapshotsEnv c) "stm" "1" "gtfsrt_trip_updates" snapshotB ⟨2, none⟩] ∧
      (runs (twoSnapshotsEnv c) World.init [[stmTripUpdates], [stmTripUpdates]]).bucket =
        putObject [⟨rtPath "stm" "gtfsrt_trip_updates" (c 0), snapshotA.data, c 0⟩]
          ⟨rtPath "stm" "gtfsrt_trip_updates" (c 1), snapshotB.data, c 1⟩ ∧
      (runs (twoSnapshotsEnv c) World.init [[stmTripUpdates], [stmTripUpdates]]).reads = 2 := by
  have ha : AllSucceed (twoSnapshotsEnv c) := fun _ _ => rfl
  have hA : parseFeedMeta 16 snapshotA = .ret ⟨1, none⟩ := by decide
  have hB : parseFeedMeta 16 snapshotB = .ret ⟨2, none⟩ := by decide
  have h₁ := runScheduled_saved ha (w := World.init) stmTripUpdates (by decide) rfl rfl hA
  have hl : (runScheduled (twoSnapshotsEnv c) World.init [stmTripUpdates]).calls.length = 7 := by
    rw [h₁]
    rfl
  have h₂ := runScheduled_saved ha (w := runScheduled (twoSnapshotsEnv c) World.init [stmTripUpdates])
    stmTripUpdates (by decide) (by rw [hl]; rfl) (by rw [hl, h₁]; rfl) (by rw [hl]; exact hB)
  rw [runs_cons, runs_cons, runs_nil, h₂, h₁]
  exact ⟨rfl, rfl, rfl⟩

/-- 5:30 and 6:30 UTC on 2 November 2025, both 1:30 in Montreal. -/
def fallBackClock (k : ℕ) : ℤ := 1762061400000 + 3600000 * k

/-- The two snapshots saved an hour apart at the autumn change. -/
def fallBackEnv : Env := twoSnapshotsEnv fallBackClock

/-- 7:30 and 8:30 UTC on 2 November 2025, 2:30 and 3:30 in Montreal after the change. -/
def afterChangeClock (k : ℕ) : ℤ := 1762068600000 + 3600000 * k

end Transit
