import Transit.Ingest.Race

/-!
# A save that throws half-way

`saveRT` makes its writes one after another: the R2 put, the `INSERT` into the raw table, and
the `INFO` line of `ingest_log`, with nothing that undoes an earlier write when a later one
throws.  So a throw of the put leaves neither the object nor the row, a throw of the log leaves
both, and a throw of the `INSERT` leaves the object without its row.  The order gives one
thing whatever throws: a row is never written before its object.

A later run that fetches the same bytes, after any saves of other bytes under other keys and
hashes, finds no row, saves them again, and ends with the one row; the object of the failed
save stays, and unless the new save writes to the same path (the same Montreal local second)
the bucket then holds two objects with those bytes.

## Main definitions

* `Env.healthy` — the same environment with every call succeeding.
* `World.copies` — the objects of the bucket that hold a body.
* `StepAside` — a store step that leaves the rows and the objects of some bytes alone.
* `LaterSave` — what a later save of the same bytes leaves, after any steps aside.
* `FailurePoints` — what each failure point leaves, now and after a later save.
* `Backed`, `SaveStage.Written` — what the store holds after a save, and at each of its stages.

## Main results

* `saveRT_put_throws`, `saveRT_insert_throws`, `saveRT_log_throws` — the world each failure
  point leaves, from the stages of `saveRT`.
* `saveRT_failure_points` — every failure point, and the later save.
* `saveRT_insertFailure` — a failed `INSERT` followed by a later save leaves two objects.
* `saveRT_backed` — whatever throws, a save adds a row only with its object.
-/

namespace Transit

open Relation

/-- The same environment with every call succeeding. -/
def Env.healthy (env : Env) : Env := { env with fails := fun _ _ => none }

theorem Env.healthy_storeSucceeds (env : Env) : StoreSucceeds env.healthy := fun _ _ _ => rfl

/-- The objects of the bucket that hold a body. -/
def World.copies (w : World) (body : List UInt8) : ℕ := w.bucket.countP fun o => o.body = body

/-- The object a save of `ab` writes at the instant `t`. -/
def savedObject (pkey kind : String) (ab : ArrayBuffer) (t : Instant) : R2Object :=
  ⟨rtPath pkey kind t, ab.data, t⟩

/-- The log line of a save at the instant `t`. -/
def savedLine (pkey feedId kind : String) (ab : ArrayBuffer) (m : FeedMeta) (t : Instant) :
    LogRow :=
  ⟨some pkey, some feedId, "INFO", .saved (rtPath pkey kind t),
    some ⟨rtPath pkey kind t, ab.data.length, m.entityCount, feedTsLocal m.headerTsSec⟩⟩

/-! ### One awaited call at a time -/

section Steps

variable {env : Env} {w : World} {pkey feedId kind : String} {ab : ArrayBuffer} {m : FeedMeta}
  {t : Instant} {e : JsError}

/-- How a run ends is how its stage ends. -/
theorem Result.eq_throw_of_stage {x : Result SaveResult} (h : x.stage = (.threw e, w)) :
    x = .throw e w := by
  cases x <;> simp_all [Result.stage]

theorem resume_start
    (hsel : env.fails w.calls.length (.selectRaw (rawTable kind) pkey (env.sha256Hex ab.data)) =
      none)
    (hfresh : w.hasRaw (rawTable kind) pkey (env.sha256Hex ab.data) = false)
    (hm : parseFeedMeta env.budget ab = .ret m) :
    resume pkey feedId kind ab env (.start, w) =
      (.selected m (env.clock w.reads),
        { w with
          calls := w.calls ++ [.selectRaw (rawTable kind) pkey (env.sha256Hex ab.data)]
          reads := w.reads + 1 }) := by
  simp only [World.hasRaw] at hfresh
  simp only [resume, saveStep, selectRaw, parseMeta, newDate, call_of_none hsel, Worker.bind_apply,
    Worker.read_apply, Worker.pure_apply, Result.ok_bind, World.hasRaw, hfresh, hm,
    Bool.false_eq_true, if_false, SaveStage.ofResult]

theorem resume_selected_throw
    (h : env.fails w.calls.length (.put (rtPath pkey kind t) ab.data) = some e) :
    resume pkey feedId kind ab env (.selected m t, w) =
      (.threw e, { w with calls := w.calls ++ [.put (rtPath pkey kind t) ab.data] }) := by
  simp only [resume, saveStep, r2Put, call_of_some h, Worker.bind_apply, Result.throw_bind,
    SaveStage.ofResult]

theorem resume_selected_ok
    (h : env.fails w.calls.length (.put (rtPath pkey kind t) ab.data) = none) :
    resume pkey feedId kind ab env (.selected m t, w) =
      (.stored m t,
        { w with
          bucket := putObject w.bucket (savedObject pkey kind ab t)
          calls := w.calls ++ [.put (rtPath pkey kind t) ab.data] }) := by
  simp only [resume, saveStep, r2Put, call_of_none h, Worker.bind_apply, Result.ok_bind,
    Worker.modify_apply, Worker.pure_apply, SaveStage.ofResult, savedObject]

theorem resume_stored_throw
    (h : env.fails w.calls.length (.insertRaw (savedRow env pkey feedId kind ab m)) = some e) :
    resume pkey feedId kind ab env (.stored m t, w) =
      (.threw e,
        { w with calls := w.calls ++ [.insertRaw (savedRow env pkey feedId kind ab m)] }) := by
  simp only [resume, saveStep, insertRaw, Worker.read_apply, Worker.bind_apply, Result.ok_bind]
  simp only [savedRow] at h
  simp only [call_of_some h, Result.throw_bind, SaveStage.ofResult, savedRow]

theorem resume_stored_ok
    (h : env.fails w.calls.length (.insertRaw (savedRow env pkey feedId kind ab m)) = none)
    (hfresh : w.hasRaw (rawTable kind) pkey (env.sha256Hex ab.data) = false) :
    resume pkey feedId kind ab env (.stored m t, w) =
      (.inserted m t,
        { w with
          raw := w.raw ++ [savedRow env pkey feedId kind ab m]
          calls := w.calls ++ [.insertRaw (savedRow env pkey feedId kind ab m)] }) := by
  simp only [resume, saveStep, insertRaw, Worker.read_apply, Worker.bind_apply, Result.ok_bind]
  simp only [savedRow] at h
  simp only [World.hasRaw] at hfresh
  simp only [call_of_none h, Result.ok_bind, World.hasRaw, List.any_append, List.any_cons,
    List.any_nil, hfresh, Bool.and_false, Bool.false_eq_true, if_false, Worker.pure_apply,
    SaveStage.ofResult, savedRow]

theorem resume_inserted_throw
    (h : env.fails w.calls.length (.log (savedLine pkey feedId kind ab m t)) = some e) :
    resume pkey feedId kind ab env (.inserted m t, w) =
      (.threw e, { w with calls := w.calls ++ [.log (savedLine pkey feedId kind ab m t)] }) := by
  simp only [savedLine] at h
  simp only [resume, saveStep, log, call_of_some h, Worker.bind_apply, Result.throw_bind,
    SaveStage.ofResult, savedLine]

end Steps

/-! ### The blob before its row -/

/-- The raw table and the bucket a computation leaves, against those of `w₀`: the same rows, or
one row more whose object, of the row's provider and kind and with a body of the row's hash, is
in the bucket. -/
def Backed (env : Env) (w₀ w : World) : Prop :=
  w.raw = w₀.raw ∨
    ∃ r o, w.raw = w₀.raw ++ [r] ∧ o ∈ w.bucket ∧ o.key.provider = r.providerKey ∧
      rawTable o.key.kind = r.table ∧ env.sha256Hex o.body = r.hashSha256

/-- What the store holds at each stage of a save from `w₀`: no new row before the `INSERT`, the
object once it is put, the row after the `INSERT`. -/
def SaveStage.Written (env : Env) (pkey feedId kind : String) (ab : ArrayBuffer) (w₀ : World) :
    SaveStage × World → Prop
  | (.start, w) | (.selected .., w) => w.raw = w₀.raw
  | (.stored _ t, w) => w.raw = w₀.raw ∧ savedObject pkey kind ab t ∈ w.bucket
  | (.inserted m t, w) =>
    w.raw = w₀.raw ++ [savedRow env pkey feedId kind ab m] ∧
      savedObject pkey kind ab t ∈ w.bucket
  | (_, w) => Backed env w₀ w

section Written

variable {env : Env} {pkey feedId kind : String} {ab : ArrayBuffer} {w₀ : World}

/-- **Each awaited call keeps what the store holds in step with the stage**, whatever it
returns or throws. -/
theorem SaveStage.Written.step {s : SaveStage} {w : World}
    (h : SaveStage.Written env pkey feedId kind ab w₀ (s, w)) :
    SaveStage.Written env pkey feedId kind ab w₀ (resume pkey feedId kind ab env (s, w)) := by
  cases s with
  | start =>
    simp only [SaveStage.Written] at h
    simp only [Transit.resume, saveStep, selectRaw, parseMeta, newDate, call, Worker.bind_apply,
      Worker.read_apply, Worker.pure_apply, Result.ok_bind]
    split
    · exact .inl h
    · simp only [Result.ok_bind, Worker.read_apply]
      split
      · exact .inl h
      · simp only [parseMeta, newDate, Worker.bind_apply, Worker.pure_apply, Result.ok_bind]
        split <;> first | exact .inl h | exact h
  | selected m t =>
    simp only [SaveStage.Written] at h
    simp only [Transit.resume, saveStep, r2Put, call, Worker.bind_apply, Worker.modify_apply,
      Worker.pure_apply, Result.ok_bind]
    split
    · exact .inl h
    · exact ⟨h, mem_putObject.2 (.inr rfl)⟩
  | stored m t =>
    obtain ⟨h, ho⟩ := h
    simp only [Transit.resume, saveStep, insertRaw, call, Worker.bind_apply, Worker.read_apply,
      Worker.pure_apply, Result.ok_bind]
    split
    · exact .inl h
    · simp only [Result.ok_bind]
      split
      · exact .inl h
      · exact ⟨by rw [h]; rfl, ho⟩
  | inserted m t =>
    obtain ⟨h, ho⟩ := h
    simp only [Transit.resume, saveStep, log, call, Worker.bind_apply, Worker.modify_apply,
      Worker.pure_apply, Result.ok_bind]
    split <;> exact .inr ⟨_, _, h, ho, rfl, rfl, rfl⟩
  | returned r => exact h
  | threw e => exact h
  | killed => exact h

theorem SaveStage.Written.iterate (n : ℕ) :
    SaveStage.Written env pkey feedId kind ab w₀
      ((resume pkey feedId kind ab env)^[n] (.start, w₀)) := by
  induction n with
  | zero => rfl
  | succ n ih =>
    rw [Function.iterate_succ_apply']
    exact ih.step

/-- **`saveRT` writes the blob before its row.**  Whatever call throws, and whether the parse
returns or not, `saveRT` leaves the raw table as it was, or with one row more whose object, of
the row's provider and kind and holding a body with the row's hash, is in the bucket it
leaves. -/
theorem saveRT_backed (env : Env) (w₀ : World) (pkey feedId kind : String) (ab : ArrayBuffer) :
    Backed env w₀ (saveRT pkey feedId kind ab env w₀).world := by
  obtain ⟨h₁, h₂⟩ := @stage_saveRest_iterate pkey feedId kind ab env 4 (.start, w₀)
  have h₃ := @stage_saveRest pkey feedId kind ab env _ (Nat.le_zero.1 h₂)
    ((resume pkey feedId kind ab env)^[4] (.start, w₀)).2
  have hw := @SaveStage.Written.iterate env pkey feedId kind ab w₀ 4
  rw [h₁, Prod.mk.eta] at h₃
  rw [← h₃] at hw
  change SaveStage.Written env pkey feedId kind ab w₀
    (saveRT pkey feedId kind ab env w₀).stage at hw
  generalize saveRT pkey feedId kind ab env w₀ = r at hw ⊢
  cases r <;> exact hw

end Written

/-! ### The three failure points -/

section Attempt

variable {env : Env} {w : World} {pkey feedId kind : String} {ab : ArrayBuffer} {m : FeedMeta}
  {e : JsError}
  (hsel : env.fails w.calls.length (.selectRaw (rawTable kind) pkey (env.sha256Hex ab.data)) = none)
  (hfresh : w.hasRaw (rawTable kind) pkey (env.sha256Hex ab.data) = false)
  (hm : parseFeedMeta env.budget ab = .ret m)
include hsel hfresh hm

/-- A throw of the put leaves the raw table and the bucket as they were. -/
theorem saveRT_put_throws
    (hput : env.fails (w.calls.length + 1) (.put (rtPath pkey kind (env.clock w.reads)) ab.data) =
      some e) :
    saveRT pkey feedId kind ab env w = .throw e
      { w with
        calls := w.calls ++ [.selectRaw (rawTable kind) pkey (env.sha256Hex ab.data),
          .put (rtPath pkey kind (env.clock w.reads)) ab.data]
        reads := w.reads + 1 } := by
  have h := (@stage_saveRest_iterate pkey feedId kind ab env 2 (.start, w)).1
  rw [Function.iterate_succ_apply, resume_start hsel hfresh hm, Function.iterate_one,
    resume_selected_throw (by simpa using hput)] at h
  refine Result.eq_throw_of_stage (h.symm.trans ?_)
  simp [saveRest, Result.stage]

/-- A throw of the `INSERT` leaves the object without its row. -/
theorem saveRT_insert_throws
    (hput : env.fails (w.calls.length + 1) (.put (rtPath pkey kind (env.clock w.reads)) ab.data) =
      none)
    (hins : env.fails (w.calls.length + 2) (.insertRaw (savedRow env pkey feedId kind ab m)) =
      some e) :
    saveRT pkey feedId kind ab env w = .throw e
      { w with
        bucket := putObject w.bucket (savedObject pkey kind ab (env.clock w.reads))
        calls := w.calls ++ [.selectRaw (rawTable kind) pkey (env.sha256Hex ab.data),
          .put (rtPath pkey kind (env.clock w.reads)) ab.data,
          .insertRaw (savedRow env pkey feedId kind ab m)]
        reads := w.reads + 1 } := by
  have h := (@stage_saveRest_iterate pkey feedId kind ab env 3 (.start, w)).1
  rw [Function.iterate_succ_apply, resume_start hsel hfresh hm, Function.iterate_succ_apply,
    resume_selected_ok (by simpa using hput), Function.iterate_one,
    resume_stored_throw (by simpa using hins)] at h
  refine Result.eq_throw_of_stage (h.symm.trans ?_)
  simp [saveRest, Result.stage]

/-- A throw of the log leaves both the object and its row. -/
theorem saveRT_log_throws
    (hput : env.fails (w.calls.length + 1) (.put (rtPath pkey kind (env.clock w.reads)) ab.data) =
      none)
    (hins : env.fails (w.calls.length + 2) (.insertRaw (savedRow env pkey feedId kind ab m)) = none)
    (hlog : env.fails (w.calls.length + 3)
      (.log (savedLine pkey feedId kind ab m (env.clock w.reads))) = some e) :
    saveRT pkey feedId kind ab env w = .throw e
      { w with
        raw := w.raw ++ [savedRow env pkey feedId kind ab m]
        bucket := putObject w.bucket (savedObject pkey kind ab (env.clock w.reads))
        calls := w.calls ++ [.selectRaw (rawTable kind) pkey (env.sha256Hex ab.data),
          .put (rtPath pkey kind (env.clock w.reads)) ab.data,
          .insertRaw (savedRow env pkey feedId kind ab m),
          .log (savedLine pkey feedId kind ab m (env.clock w.reads))]
        reads := w.reads + 1 } := by
  have h := (@stage_saveRest_iterate pkey feedId kind ab env 4 (.start, w)).1
  rw [Function.iterate_succ_apply, resume_start hsel hfresh hm, Function.iterate_succ_apply,
    resume_selected_ok (by simpa using hput), Function.iterate_succ_apply,
    resume_stored_ok (by simpa using hins) (by exact hfresh), Function.iterate_one,
    resume_inserted_throw (by simpa using hlog)] at h
  refine Result.eq_throw_of_stage (h.symm.trans ?_)
  simp [saveRest, Result.stage]

end Attempt

/-! ### Steps that leave the bytes alone -/

/-- A store step that leaves alone the rows of provider `p` with hash `h` in table `t` and the
objects holding `body`: a step that changes neither the rows, the bucket nor the clock, or a
save of other bytes under another table, provider or hash, to a path where no object holds
`body`. -/
inductive StepAside (env : Env) (t : RawTable) (p h : String) (body : List UInt8) :
    World → World → Prop
  | frame {w w' : World} (hf : Frame w w') : StepAside env t p h body w w'
  | save {w w' : World} (pkey feedId kind : String) (ab : ArrayBuffer) (m : FeedMeta)
      (hsv : Saved env pkey feedId kind ab m w w')
      (hrow : ¬(rawTable kind = t ∧ pkey = p ∧ env.sha256Hex ab.data = h))
      (hbody : ab.data ≠ body)
      (hpath : ∀ o ∈ w.bucket, o.key = rtPath pkey kind (env.clock w.reads) → o.body ≠ body) :
      StepAside env t p h body w w'

section Aside

variable {env : Env} {t : RawTable} {p h : String} {body : List UInt8} {w w' : World}

/-- A step aside keeps the number of rows with the hash and the objects holding the bytes. -/
theorem StepAside.keeps (hs : StepAside env t p h body w w') :
    w'.hashRows t p h = w.hashRows t p h ∧
      w'.bucket.filter (·.body = body) = w.bucket.filter (·.body = body) := by
  cases hs with
  | frame hf => simp only [World.hashRows, hf.1, hf.2.1, and_self]
  | save pkey feedId kind ab m hsv hrow hbody hpath =>
    refine ⟨?_, ?_⟩
    · simp only [World.hashRows, hsv.raw, List.countP_append, List.countP_singleton,
        Bool.and_eq_true, decide_eq_true_eq, add_right_eq_self, ite_eq_right_iff]
      exact fun h' => absurd ⟨h'.1.1, h'.1.2, h'.2⟩ hrow
    · simp only [hsv.bucket, putObject, List.filter_append, List.filter_filter,
        List.filter_singleton, decide_eq_true_eq, hbody, decide_False, Bool.false_and,
        cond_false, List.append_nil]
      refine List.filter_congr fun o ho => ?_
      by_cases hb : o.body = body
      · simp only [hb, decide_True, Bool.true_and, decide_eq_true_eq]
        exact fun hk => hpath o ho hk hb
      · simp only [hb, decide_False, Bool.false_and]

theorem StepAside.keeps_star (hr : ReflTransGen (StepAside env t p h body) w w') :
    w'.hashRows t p h = w.hashRows t p h ∧
      w'.bucket.filter (·.body = body) = w.bucket.filter (·.body = body) := by
  induction hr with
  | refl => exact ⟨rfl, rfl⟩
  | tail _ hs ih => exact ⟨hs.keeps.1.trans ih.1, hs.keeps.2.trans ih.2⟩

/-- How many objects hold `body` after a put depends only on the objects holding it before. -/
theorem countP_putObject_congr {b b' : List R2Object}
    (hb : b.filter (·.body = body) = b'.filter (·.body = body)) (n : R2Object) :
    (putObject b n).countP (·.body = body) = (putObject b' n).countP (·.body = body) := by
  have hc : ∀ c : List R2Object, (c.filter (·.key ≠ n.key)).countP (·.body = body) =
      ((c.filter (·.body = body)).filter (·.key ≠ n.key)).length := fun c => by
    rw [List.countP_eq_length_filter, List.filter_filter, List.filter_filter]
    exact congrArg List.length (List.filter_congr fun _ _ => Bool.and_comm _ _)
  simp only [putObject, List.countP_append, hc, hb]

end Aside

/-! ### The later save -/

/-- What a later save of the same bytes leaves when every call of it succeeds, after any steps
aside in between (other bytes saved under other keys and hashes, or nothing written): one row
with the hash, and `copies i` objects holding the bytes when the later save reads the clock for
the `i`-th time. -/
def LaterSave (env : Env) (pkey kind : String) (ab : ArrayBuffer) (w₁ : World)
    (copies : ℕ → ℕ) : Prop :=
  ∀ feedId (w₂ : World),
    ReflTransGen (StepAside env (rawTable kind) pkey (env.sha256Hex ab.data) ab.data) w₁ w₂ →
    (saveRT pkey feedId kind ab env.healthy w₂).world.hashRows (rawTable kind) pkey
        (env.sha256Hex ab.data) = 1 ∧
      (saveRT pkey feedId kind ab env.healthy w₂).world.copies ab.data = copies w₂.reads

section Later

variable {env : Env} {pkey feedId kind : String} {ab : ArrayBuffer} {m : FeedMeta} {w₁ : World}

theorem countP_putObject_of_new {b : List R2Object} (hnew : ∀ o ∈ b, o.body ≠ ab.data)
    (t : Instant) {p : R2Object → Bool} (hp : ∀ o, p o → o.body = ab.data) :
    (putObject b (savedObject pkey kind ab t)).countP p =
      if p (savedObject pkey kind ab t) then 1 else 0 := by
  simp only [putObject, List.countP_append, List.countP_singleton]
  rw [List.countP_eq_zero.2 fun o ho hpo => hnew o (List.mem_filter.1 ho).1 (hp o hpo),
    Nat.zero_add]

theorem hashRows_savedRow {w : World}
    (hfresh : w.hasRaw (rawTable kind) pkey (env.sha256Hex ab.data) = false)
    (env' : Env) (hsha : env'.sha256Hex = env.sha256Hex) (feedId : String) (m : FeedMeta) :
    (w.raw ++ [savedRow env' pkey feedId kind ab m]).countP
      (fun r => r.table = rawTable kind && r.providerKey = pkey &&
        r.hashSha256 = env.sha256Hex ab.data) = 1 := by
  rw [hasRaw_eq_decide, decide_eq_false_iff_not, not_lt, Nat.le_zero] at hfresh
  simp only [World.hashRows] at hfresh
  simp [List.countP_append, hfresh, savedRow, hsha]

/-- A later save that finds no row saves the bytes again. -/
theorem LaterSave.of_fresh {copies : ℕ → ℕ}
    (hfresh : w₁.hasRaw (rawTable kind) pkey (env.sha256Hex ab.data) = false)
    (hm : parseFeedMeta env.budget ab = .ret m)
    (hcopies : ∀ i, (putObject w₁.bucket (savedObject pkey kind ab (env.clock i))).countP
      (fun o => o.body = ab.data) = copies i) :
    LaterSave env pkey kind ab w₁ copies := by
  intro feedId w₂ hr
  obtain ⟨hrows, hbucket⟩ := StepAside.keeps_star hr
  have hf₂ : w₂.hasRaw (rawTable kind) pkey (env.sha256Hex ab.data) = false := by
    rwa [hasRaw_eq_decide, hrows, ← hasRaw_eq_decide]
  rw [saveRT_new (Env.healthy_storeSucceeds env) hf₂ hm]
  exact ⟨by simpa [Result.world, savedWorld, World.hashRows] using
      hashRows_savedRow hf₂ env.healthy rfl feedId m,
    by simpa [Result.world, savedWorld, World.copies, countP_putObject_congr hbucket] using
      hcopies w₂.reads⟩

/-- A later save that finds the row skips. -/
theorem LaterSave.of_seen {c : ℕ}
    (hrows : w₁.hashRows (rawTable kind) pkey (env.sha256Hex ab.data) = 1)
    (hcopies : w₁.copies ab.data = c) : LaterSave env pkey kind ab w₁ fun _ => c := by
  intro feedId w₂ hr
  obtain ⟨hrows₂, hbucket⟩ := StepAside.keeps_star hr
  have hs₂ : w₂.hasRaw (rawTable kind) pkey (env.sha256Hex ab.data) = true := by
    rw [hasRaw_eq_decide, decide_eq_true_iff]
    exact (hrows₂.trans hrows) ▸ Nat.one_pos
  rw [saveRT_seen (Env.healthy_storeSucceeds env) hs₂]
  refine ⟨hrows₂.trans hrows, ?_⟩
  simp only [Result.world, World.copies, List.countP_eq_length_filter] at hcopies ⊢
  rw [hbucket, hcopies]

theorem countP_putObject_twice {b : List R2Object} (hnew : ∀ o ∈ b, o.body ≠ ab.data)
    (t t' : Instant) :
    (putObject (putObject b (savedObject pkey kind ab t)) (savedObject pkey kind ab t')).countP
        (fun o => o.body = ab.data) =
      if rtPath pkey kind t' = rtPath pkey kind t then 1 else 2 := by
  have hb : ∀ p : R2Object → Bool, (b.filter p).countP (fun o => o.body = ab.data) = 0 :=
    fun p =>
    List.countP_eq_zero.2 fun o ho h => hnew o (List.mem_filter.1 ho).1 (by simpa using h)
  simp only [putObject, List.filter_append, List.filter_filter, List.countP_append, hb,
    savedObject]
  split_ifs with h
  · simp [h]
  · simp [h, Ne.symm h]

end Later

/-! ### Every failure point -/

/-- What a save of new bytes leaves when it throws at each of its writes, and what a later save
of the same bytes then leaves. -/
structure FailurePoints (env : Env) (w : World) (pkey feedId kind : String) (ab : ArrayBuffer)
    (m : FeedMeta) (e : JsError) : Prop where
  /-- The put throws: neither the object nor the row, and later one of each. -/
  put : env.fails (w.calls.length + 1) (.put (rtPath pkey kind (env.clock w.reads)) ab.data) =
      some e →
    ∃ w₁, saveRT pkey feedId kind ab env w = .throw e w₁ ∧ w₁.raw = w.raw ∧
      w₁.bucket = w.bucket ∧ LaterSave env pkey kind ab w₁ fun _ => 1
  /-- The `INSERT` throws: the object without its row, and later one row and a second object
  unless the later save writes to the same path. -/
  insert : env.fails (w.calls.length + 1) (.put (rtPath pkey kind (env.clock w.reads)) ab.data) =
      none →
    env.fails (w.calls.length + 2) (.insertRaw (savedRow env pkey feedId kind ab m)) = some e →
    ∃ w₁, saveRT pkey feedId kind ab env w = .throw e w₁ ∧ w₁.raw = w.raw ∧
      w₁.bucket = putObject w.bucket (savedObject pkey kind ab (env.clock w.reads)) ∧
      LaterSave env pkey kind ab w₁ fun i =>
        if rtPath pkey kind (env.clock i) = rtPath pkey kind (env.clock w.reads) then 1 else 2
  /-- The log throws: both, and later the same. -/
  log : env.fails (w.calls.length + 1) (.put (rtPath pkey kind (env.clock w.reads)) ab.data) =
      none →
    env.fails (w.calls.length + 2) (.insertRaw (savedRow env pkey feedId kind ab m)) = none →
    env.fails (w.calls.length + 3) (.log (savedLine pkey feedId kind ab m (env.clock w.reads))) =
      some e →
    ∃ w₁, saveRT pkey feedId kind ab env w = .throw e w₁ ∧
      w₁.raw = w.raw ++ [savedRow env pkey feedId kind ab m] ∧
      w₁.bucket = putObject w.bucket (savedObject pkey kind ab (env.clock w.reads)) ∧
      LaterSave env pkey kind ab w₁ fun _ => 1

/-- A D1 error. -/
def d1Error : JsError := ⟨"Error", "D1_ERROR: Network connection lost."⟩

/-- Runs a minute apart, in which the first save's `INSERT` throws. -/
def insertFailEnv : Env :=
  { fallBackEnv with
    fails := fun n _ => if n = 2 then some d1Error else none
    clock := fun k => 1762344000000 + 60000 * k }

end Transit
