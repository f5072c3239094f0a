import Transit.Ingest.Store

/-!
# Overlapping saves

Two invocations of `scheduled` can overlap, and then two executions of `saveRT` for the same
feed and the same bytes interleave at their awaited calls: the dedup `SELECT`, the R2 put, the
`INSERT` and the log.  Nothing makes the `SELECT` and the `INSERT` one step.  An execution skips
only when the other's `INSERT` has run before its `SELECT`; when both `SELECT`s run first,
both executions store: two objects with the same bytes and, without a uniqueness constraint on
the raw table, two rows with the same hash.  With one, the second `INSERT` throws, after its
object is written, and `scheduled` logs the exception as an `ERROR`.

`saveStep` cuts `saveRT` at its awaited calls; `resume_saveRT` shows that four steps of one
execution are `saveRT`.

## Main definitions

* `SaveStage`, `saveStep`, `resume` — an execution of `saveRT`, one awaited call at a time.
* `Race`, `race` — two executions interleaved by a schedule.
* `RaceInv` — what every interleaving keeps.

## Main results

* `resume_saveRT` — four steps of one execution are `saveRT`.
* `RaceInv.race` — every interleaving keeps `RaceInv`: one row per execution past its
  `INSERT`, a skip or a throw only after the other's `INSERT`, and at most one row under a
  uniqueness constraint.
* `race_inv` — for every schedule, what the invariant gives once an execution has ended.
* `race_lockstep` — both `SELECT`s before both `INSERT`s: two rows, or a throw.
-/

namespace Transit

/-! ### `saveRT`, one awaited call at a time -/

/-- Where an execution of `saveRT` stands between two awaited calls. -/
inductive SaveStage where
  /-- Before the dedup `SELECT`. -/
  | start
  /-- The `SELECT` found no row, the body is parsed and `nowLocal` read; next, the R2 put. -/
  | selected (m : FeedMeta) (nowLocal : Instant)
  /-- The object is written; next, the `INSERT`. -/
  | stored (m : FeedMeta) (nowLocal : Instant)
  /-- The row is inserted; next, the log. -/
  | inserted (m : FeedMeta) (nowLocal : Instant)
  /-- `saveRT` returned. -/
  | returned (r : SaveResult)
  /-- `saveRT` threw; `scheduled` logs the error. -/
  | threw (e : JsError)
  /-- The CPU limit killed the invocation. -/
  | killed
  deriving DecidableEq, Repr

/-- The code of `saveRT` from a stage up to its next awaited call, included. -/
def saveStep (pkey feedId kind : String) (ab : ArrayBuffer) : SaveStage → Worker SaveStage
  | .start => do
    let hash ← Worker.read fun env _ => env.sha256Hex ab.data
    if ← selectRaw (rawTable kind) pkey hash then return .returned .skipped
    let m ← parseMeta ab
    let nowLocal ← newDate
    return .selected m nowLocal
  | .selected m nowLocal => do
    r2Put (rtPath pkey kind nowLocal) ab nowLocal
    return .stored m nowLocal
  | .stored m nowLocal => do
    let hash ← Worker.read fun env _ => env.sha256Hex ab.data
    insertRaw ⟨rawTable kind, pkey, feedId, feedTsLocal m.headerTsSec, hash, m.entityCount⟩
    return .inserted m nowLocal
  | .inserted m nowLocal => do
    let path := rtPath pkey kind nowLocal
    let feedTs := feedTsLocal m.headerTsSec
    log "INFO" (.saved path) (some pkey) (some feedId)
      (some ⟨path, ab.data.length, m.entityCount, feedTs⟩)
    return .returned (.saved path)
  | s => pure s

/-- The stage a step ends in: a throw or a kill ends the execution. -/
def SaveStage.ofResult : Result SaveStage → SaveStage × World
  | .ok s w => (s, w)
  | .throw e w => (.threw e, w)
  | .killed w => (.killed, w)

/-- One awaited call of an execution. -/
def resume (pkey feedId kind : String) (ab : ArrayBuffer) (env : Env) (p : SaveStage × World) :
    SaveStage × World :=
  SaveStage.ofResult (saveStep pkey feedId kind ab p.1 env p.2)

/-- The stage in which a run of `saveRT` ends. -/
def Result.stage : Result SaveResult → SaveStage × World
  | .ok r w => (.returned r, w)
  | .throw e w => (.threw e, w)
  | .killed w => (.killed, w)

/-- What remains of `saveRT` from a stage. -/
def saveRest (pkey feedId kind : String) (ab : ArrayBuffer) : SaveStage → Worker SaveResult
  | .start => saveRT pkey feedId kind ab
  | .selected m nowLocal => do
    r2Put (rtPath pkey kind nowLocal) ab nowLocal
    let hash ← Worker.read fun env _ => env.sha256Hex ab.data
    insertRaw ⟨rawTable kind, pkey, feedId, feedTsLocal m.headerTsSec, hash, m.entityCount⟩
    log "INFO" (.saved (rtPath pkey kind nowLocal)) (some pkey) (some feedId)
      (some ⟨rtPath pkey kind nowLocal, ab.data.length, m.entityCount, feedTsLocal m.headerTsSec⟩)
    return .saved (rtPath pkey kind nowLocal)
  | .stored m nowLocal => do
    let hash ← Worker.read fun env _ => env.sha256Hex ab.data
    insertRaw ⟨rawTable kind, pkey, feedId, feedTsLocal m.headerTsSec, hash, m.entityCount⟩
    log "INFO" (.saved (rtPath pkey kind nowLocal)) (some pkey) (some feedId)
      (some ⟨rtPath pkey kind nowLocal, ab.data.length, m.entityCount, feedTsLocal m.headerTsSec⟩)
    return .saved (rtPath pkey kind nowLocal)
  | .inserted m nowLocal => do
    log "INFO" (.saved (rtPath pkey kind nowLocal)) (some pkey) (some feedId)
      (some ⟨rtPath pkey kind nowLocal, ab.data.length, m.entityCount, feedTsLocal m.headerTsSec⟩)
    return .saved (rtPath pkey kind nowLocal)
  | .returned r => pure r
  | .threw e => fun _ w => .throw e w
  | .killed => fun _ w => .killed w

/-- The awaited calls an execution has still to make. -/
def SaveStage.pending : SaveStage → ℕ
  | .start => 4
  | .selected .. => 3
  | .stored .. => 2
  | .inserted .. => 1
  | _ => 0

/-! ### One execution is `saveRT` -/

section Steps

variable {pkey feedId kind : String} {ab : ArrayBuffer} {env : Env}

@[simp] theorem resume_returned (r : SaveResult) (w : World) :
    resume pkey feedId kind ab env (.returned r, w) = (.returned r, w) := rfl

@[simp] theorem resume_threw (e : JsError) (w : World) :
    resume pkey feedId kind ab env (.threw e, w) = (.threw e, w) := rfl

@[simp] theorem resume_killed (w : World) :
    resume pkey feedId kind ab env (.killed, w) = (.killed, w) := rfl

/-- The rest of a run is a step and the rest from where it ends. -/
theorem saveRest_step (s : SaveStage) (w : World) :
    saveRest pkey feedId kind ab s env w =
      (saveStep pkey feedId kind ab s env w).bind fun s' =>
        saveRest pkey feedId kind ab s' env := by
  cases s <;> simp only [saveRest, saveStep, saveRT, Worker.bind_apply, Worker.read_apply,
    Worker.pure_apply, Result.ok_bind, Result.bind_assoc, Worker.bind_env, Worker.pure_env]
  case start =>
    congr 1
    funext b w
    cases b <;> simp only [Bool.false_eq_true, if_false, if_true, Worker.bind_apply,
      Worker.pure_apply, Worker.read_apply, Result.ok_bind, Result.bind_assoc, Worker.bind_env,
      Worker.pure_env]

theorem pending_ofResult_bind {α : Type} {n : ℕ} (x : Result α) {f : α → World → Result SaveStage}
    (hf : ∀ a w, (SaveStage.ofResult (f a w)).1.pending ≤ n) :
    (SaveStage.ofResult (x.bind f)).1.pending ≤ n := by
  cases x
  · exact hf _ _
  all_goals exact Nat.zero_le n

/-- Each step makes one awaited call, or ends the execution. -/
theorem pending_resume (s : SaveStage) (w : World) :
    (resume pkey feedId kind ab env (s, w)).1.pending ≤ s.pending - 1 := by
  cases s <;> simp only [resume, saveStep, Worker.bind_apply, Worker.read_apply, Worker.pure_apply,
    Result.ok_bind, Worker.bind_env, Worker.pure_env]
  case start =>
    refine pending_ofResult_bind _ fun b w => ?_
    cases b
    · exact pending_ofResult_bind _ fun m w => pending_ofResult_bind _ fun now w => le_refl _
    · exact Nat.zero_le _
  all_goals first
    | exact pending_ofResult_bind _ fun _ _ => le_refl _
    | exact Nat.zero_le _

/-- A step keeps the outcome of the rest of the run. -/
theorem saveRest_resume (s : SaveStage) (w : World) :
    (saveRest pkey feedId kind ab (resume pkey feedId kind ab env (s, w)).1 env
      (resume pkey feedId kind ab env (s, w)).2).stage =
      (saveRest pkey feedId kind ab s env w).stage := by
  conv_rhs => rw [saveRest_step]
  rw [resume]
  cases saveStep pkey feedId kind ab s env w <;> rfl

theorem stage_saveRest {s : SaveStage} (h : s.pending = 0) (w : World) :
    (saveRest pkey feedId kind ab s env w).stage = (s, w) := by
  cases s <;> first | rfl | simp [SaveStage.pending] at h

/-- Steps keep the outcome of the rest of the run, each lowering the calls still to make. -/
theorem stage_saveRest_iterate (n : ℕ) (p : SaveStage × World) :
    (saveRest pkey feedId kind ab ((resume pkey feedId kind ab env)^[n] p).1 env
        ((resume pkey feedId kind ab env)^[n] p).2).stage =
      (saveRest pkey feedId kind ab p.1 env p.2).stage ∧
    ((resume pkey feedId kind ab env)^[n] p).1.pending ≤ p.1.pending - n := by
  induction n with
  | zero => exact ⟨rfl, le_refl _⟩
  | succ n ih =>
    rw [Function.iterate_succ_apply']
    obtain ⟨h₁, h₂⟩ := ih
    exact ⟨(saveRest_resume _ _).trans h₁, (pending_resume _ _).trans (by omega)⟩

/-- **Four steps of one execution are `saveRT`**, whatever its calls do. -/
theorem resume_saveRT (w : World) :
    (resume pkey feedId kind ab env)^[4] (.start, w) =
      (saveRT pkey feedId kind ab env w).stage := by
  obtain ⟨h₁, h₂⟩ := @stage_saveRest_iterate pkey feedId kind ab env 4 (.start, w)
  have h₃ := @stage_saveRest pkey feedId kind ab env _ (Nat.le_zero.1 h₂)
    ((resume pkey feedId kind ab env)^[4] (.start, w)).2
  rw [h₁] at h₃
  exact h₃.symm

end Steps

/-! ### Two executions -/

/-- Two executions of `saveRT` and the world they share. -/
structure Race where
  a : SaveStage
  b : SaveStage
  world : World

/-- One step of a schedule: `false` resumes the first execution, `true` the second.  Both save
the bytes `ab` for provider `pkey` and kind `kind`, for the feeds `fa` and `fb`. -/
def raceStep (pkey kind : String) (ab : ArrayBuffer) (fa fb : String) (env : Env) (r : Race) :
    Bool → Race
  | false =>
    let p := resume pkey fa kind ab env (r.a, r.world)
    ⟨p.1, r.b, p.2⟩
  | true =>
    let p := resume pkey fb kind ab env (r.b, r.world)
    ⟨r.a, p.1, p.2⟩

/-- The executions interleaved by a schedule. -/
def race (pkey kind : String) (ab : ArrayBuffer) (fa fb : String) (env : Env) (r : Race)
    (sched : List Bool) : Race :=
  sched.foldl (raceStep pkey kind ab fa fb env) r

/-- The rows of `table` for `pkey` whose hash is `hash`. -/
def World.hashRows (w : World) (table : RawTable) (pkey hash : String) : ℕ :=
  w.raw.countP fun r => r.table = table && r.providerKey = pkey && r.hashSha256 = hash

/-- The rows an execution has inserted: one once its `INSERT` has run. -/
def SaveStage.rows : SaveStage → ℕ
  | .inserted .. => 1
  | .returned (.saved _) => 1
  | _ => 0

/-- How an execution may stand, given the rows the other has inserted: it skipped, or threw
`UNIQUE constraint failed` under the constraint, only after the other's `INSERT`, and it was
not killed. -/
def SaveStage.Sound (s : SaveStage) (env : Env) (other : SaveStage) : Prop :=
  match s with
  | .returned .skipped => other.rows = 1
  | .threw e => e = uniqueError ∧ env.uniqueHash = true ∧ other.rows = 1
  | .killed => False
  | _ => True

/-- What every interleaving keeps: one row with the hash per execution past its `INSERT`, at
most one under the constraint, and each execution sound. -/
structure RaceInv (env : Env) (table : RawTable) (pkey hash : String) (r : Race) : Prop where
  rows : r.world.hashRows table pkey hash = r.a.rows + r.b.rows
  unique : env.uniqueHash = true → r.world.hashRows table pkey hash ≤ 1
  soundA : r.a.Sound env r.b
  soundB : r.b.Sound env r.a

/-! ### What every interleaving keeps -/

section Inv

variable {env : Env} {table : RawTable} {pkey kind hash : String} {ab : ArrayBuffer}

theorem SaveStage.rows_le_one (s : SaveStage) : s.rows ≤ 1 := by
  rcases s with _ | _ | _ | _ | (_ | _) | _ | _ <;> simp [SaveStage.rows]

/-- Soundness only asks the other execution to have inserted, which it never undoes. -/
theorem SaveStage.Sound.mono {s o o' : SaveStage} (h : s.Sound env o) (ho : o.rows ≤ o'.rows) :
    s.Sound env o' := by
  have h₁ := o'.rows_le_one
  rcases s with _ | _ | _ | _ | (_ | _) | _ | _ <;> simp only [SaveStage.Sound] at h ⊢
  all_goals first | trivial | omega | exact ⟨h.1, h.2.1, by omega⟩

theorem hasRaw_eq_decide (w : World) :
    w.hasRaw table pkey hash = decide (0 < w.hashRows table pkey hash) := by
  rw [Bool.eq_iff_iff, World.hasRaw, List.any_eq_true, decide_eq_true_iff, World.hashRows,
    List.countP_pos_iff]

/-- While the first execution has inserted nothing, a row with the hash is the other's. -/
theorem RaceInv.rows_of_hasRaw {a b : SaveStage} {w : World}
    (h : RaceInv env table pkey hash ⟨a, b, w⟩)
    (ha : a.rows = 0) (hr : w.hasRaw table pkey hash = true) : b.rows = 1 := by
  have := h.rows
  have := b.rows_le_one
  simp only [hasRaw_eq_decide, decide_eq_true_eq] at hr
  simp only at *
  omega

theorem RaceInv.swap {a b : SaveStage} {w : World} (h : RaceInv env table pkey hash ⟨a, b, w⟩) :
    RaceInv env table pkey hash ⟨b, a, w⟩ :=
  ⟨h.rows.trans (Nat.add_comm _ _), h.unique, h.soundB, h.soundA⟩

/-- A step of the first execution that leaves the raw table alone. -/
theorem RaceInv.frame {a a' b : SaveStage} {w w' : World}
    (h : RaceInv env table pkey hash ⟨a, b, w⟩)
    (hw : w'.raw = w.raw) (hrows : a'.rows = a.rows) (hs : a'.Sound env b) :
    RaceInv env table pkey hash ⟨a', b, w'⟩ := by
  have hh : w'.hashRows table pkey hash = w.hashRows table pkey hash := by
    simp only [World.hashRows, hw]
  exact ⟨hh.trans (h.rows.trans (by rw [hrows])), hh ▸ h.unique, hs, h.soundB.mono hrows.ge⟩

/-- The `INSERT` of the first execution, when the constraint lets it through. -/
theorem RaceInv.insert {a b : SaveStage} {w : World} (h : RaceInv env table pkey hash ⟨a, b, w⟩)
    (ha : a.rows = 0) (hu : env.uniqueHash = true → w.hasRaw table pkey hash = false)
    (m : FeedMeta) (nowLocal : Instant) (feedId : String) (feedTs : Option IsoText) (n : ℕ)
    (calls : List Call) :
    RaceInv env table pkey hash
      ⟨.inserted m nowLocal, b,
        { w with
          raw := w.raw ++ [⟨table, pkey, feedId, feedTs, hash, n⟩]
          calls := calls }⟩ := by
  have hh : World.hashRows
      { w with
        raw := w.raw ++ [⟨table, pkey, feedId, feedTs, hash, n⟩]
        calls := calls } table pkey hash = w.hashRows table pkey hash + 1 := by
    simp [World.hashRows, List.countP_append]
  have hr := h.rows
  simp only at hr
  refine ⟨?_, fun hu' => ?_, trivial, h.soundB.mono (by rw [ha]; exact Nat.zero_le _)⟩
  · dsimp only
    rw [hh, hr, ha]
    simp only [SaveStage.rows]
    omega
  · have h0 := hu hu'
    simp only [hasRaw_eq_decide, decide_eq_false_iff_not, not_lt, Nat.le_zero] at h0
    dsimp only
    rw [hh, h0]

@[simp] theorem World.hasRaw_calls (w : World) (calls : List Call) :
    ({ w with calls := calls } : World).hasRaw table pkey hash = w.hasRaw table pkey hash := rfl

variable (ha : AllSucceed env) {m₀ : FeedMeta} (hm : parseFeedMeta env.budget ab = .ret m₀)
include ha hm

/-- **One awaited call of the first execution keeps the invariant**, when every call succeeds
and the bytes parse. -/
theorem RaceInv.advance (feedId : String) {a b : SaveStage} {w : World}
    (h : RaceInv env (rawTable kind) pkey (env.sha256Hex ab.data) ⟨a, b, w⟩) :
    RaceInv env (rawTable kind) pkey (env.sha256Hex ab.data)
      ⟨(resume pkey feedId kind ab env (a, w)).1, b,
        (resume pkey feedId kind ab env (a, w)).2⟩ := by
  have hs := ha.storeSucceeds
  cases a with
  | start =>
    simp only [resume, saveStep, Worker.bind_apply, Worker.read_apply, Result.ok_bind,
      selectRaw_ok hs]
    cases hr : w.hasRaw (rawTable kind) pkey (env.sha256Hex ab.data)
    · simp only [Bool.false_eq_true, if_false, World.hasRaw_calls, hr, Worker.bind_apply,
        Worker.pure_apply, Result.ok_bind, parseMeta, hm, newDate, SaveStage.ofResult]
      exact h.frame rfl rfl trivial
    · simp only [if_true, World.hasRaw_calls, hr, Worker.pure_apply, SaveStage.ofResult]
      exact h.frame rfl rfl (h.rows_of_hasRaw rfl hr)
  | selected m nowLocal =>
    simp only [resume, saveStep, Worker.bind_apply, r2Put, call_of_none (ha _ _), Result.ok_bind,
      Worker.modify_apply, Worker.pure_apply, SaveStage.ofResult]
    exact h.frame rfl rfl trivial
  | stored m nowLocal =>
    simp only [resume, saveStep, Worker.bind_apply, Worker.read_apply, insertRaw,
      call_of_none (ha _ _), Result.ok_bind, World.hasRaw_calls]
    cases hr : env.uniqueHash && w.hasRaw (rawTable kind) pkey (env.sha256Hex ab.data)
    · simp only [hr, Bool.false_eq_true, if_false, Result.ok_bind, Worker.pure_apply,
        SaveStage.ofResult]
      exact h.insert rfl (by simpa using hr) m nowLocal _ _ _ _
    · simp only [hr, if_true, Result.throw_bind, SaveStage.ofResult]
      simp only [Bool.and_eq_true] at hr
      exact h.frame rfl rfl ⟨rfl, hr.1, h.rows_of_hasRaw rfl hr.2⟩
  | inserted m nowLocal =>
    simp only [resume, saveStep, Worker.bind_apply, log, call_of_none (ha _ _), Result.ok_bind,
      Worker.modify_apply, Worker.pure_apply, SaveStage.ofResult]
    exact h.frame rfl rfl trivial
  | returned r => exact h
  | threw e => exact h
  | killed => exact h

/-- A step of either execution keeps the invariant. -/
theorem RaceInv.raceStep (fa fb : String) {r : Race}
    (h : RaceInv env (rawTable kind) pkey (env.sha256Hex ab.data) r) (x : Bool) :
    RaceInv env (rawTable kind) pkey (env.sha256Hex ab.data)
      (raceStep pkey kind ab fa fb env r x) := by
  obtain ⟨a, b, w⟩ := r
  cases x
  · exact h.advance ha hm fa
  · exact (h.swap.advance ha hm fb).swap

/-- **Every interleaving keeps the invariant.** -/
theorem RaceInv.race (fa fb : String) :
    ∀ (sched : List Bool) {r : Race}, RaceInv env (rawTable kind) pkey (env.sha256Hex ab.data) r →
      RaceInv env (rawTable kind) pkey (env.sha256Hex ab.data) (race pkey kind ab fa fb env r sched)
  | [], _, h => h
  | x :: sched, _, h => RaceInv.race fa fb sched (h.raceStep ha hm fa fb x)

omit ha hm in
/-- Once an execution has ended, the table holds a row with the hash: its own, or the other's
that made it skip or throw. -/
theorem RaceInv.one_le_rows {r : Race} (h : RaceInv env table pkey hash r) (he : r.a.pending = 0) :
    1 ≤ r.world.hashRows table pkey hash := by
  obtain ⟨a, b, w⟩ := r
  have hr := h.rows
  have hs := h.soundA
  simp only at hr hs he ⊢
  rw [hr]
  rcases a with _ | _ | _ | _ | (_ | _) | _ | _ <;>
    simp only [SaveStage.pending, SaveStage.Sound, SaveStage.rows] at he hs ⊢ <;> omega

end Inv

/-- **Overlapping saves**: for every interleaving of two executions of `saveRT` on the same new
bytes, when every call succeeds and the bytes parse, the table holds one row with the hash per
execution past its `INSERT`, and at most one under a uniqueness constraint; an execution
skips, or throws `UNIQUE constraint failed` under the constraint, only after the other's
`INSERT`, and neither is killed; and once either has ended, a row with the hash is stored. -/
theorem race_inv {env : Env} (ha : AllSucceed env) {pkey kind : String} {ab : ArrayBuffer}
    {m : FeedMeta} (hm : parseFeedMeta env.budget ab = .ret m) (fa fb : String) (w : World)
    (hnew : w.hasRaw (rawTable kind) pkey (env.sha256Hex ab.data) = false) (sched : List Bool) :
    RaceInv env (rawTable kind) pkey (env.sha256Hex ab.data)
        (race pkey kind ab fa fb env ⟨.start, .start, w⟩ sched) ∧
      ((race pkey kind ab fa fb env ⟨.start, .start, w⟩ sched).a.pending = 0 ∨
          (race pkey kind ab fa fb env ⟨.start, .start, w⟩ sched).b.pending = 0 →
        1 ≤ (race pkey kind ab fa fb env ⟨.start, .start, w⟩ sched).world.hashRows (rawTable kind)
          pkey (env.sha256Hex ab.data)) := by
  have h₀ : RaceInv env (rawTable kind) pkey (env.sha256Hex ab.data) ⟨.start, .start, w⟩ := by
    refine ⟨?_, fun _ => ?_, trivial, trivial⟩ <;>
      simp only [hasRaw_eq_decide, decide_eq_false_iff_not, not_lt, Nat.le_zero] at hnew <;>
      simp [hnew, SaveStage.rows]
  have h := RaceInv.race ha hm fa fb sched h₀
  refine ⟨h, fun he => he.elim h.one_le_rows fun hb => ?_⟩
  exact h.swap.one_le_rows hb

/-! ### Both `SELECT`s first -/

/-- Two invocations a second apart at noon UTC on 5 November 2025, every call succeeding, and no
uniqueness constraint on the raw table. -/
def overlapEnv : Env := { fallBackEnv with clock := fun k => 1762344000000 + 1000 * k }

/-- The same, with the constraint. -/
def overlapUniqueEnv : Env := { overlapEnv with uniqueHash := true }

/-- Both `SELECT`s, both puts, both `INSERT`s, both logs. -/
def lockstep : List Bool := [false, true, false, true, false, true, false, true]

theorem race_inv_lockstep :
    AllSucceed overlapEnv ∧ parseFeedMeta overlapEnv.budget snapshotA = .ret ⟨1, none⟩ ∧
      World.init.hasRaw (rawTable "gtfsrt_trip_updates") "stm"
        (overlapEnv.sha256Hex snapshotA.data) = false ∧
      (RaceInv overlapEnv (rawTable "gtfsrt_trip_updates") "stm"
          (overlapEnv.sha256Hex snapshotA.data)
          (race "stm" "gtfsrt_trip_updates" snapshotA "1" "1" overlapEnv
            ⟨.start, .start, World.init⟩ lockstep) ∧
        ((race "stm" "gtfsrt_trip_updates" snapshotA "1" "1" overlapEnv ⟨.start, .start, World.init⟩
              lockstep).a.pending = 0 ∨
            (race "stm" "gtfsrt_trip_updates" snapshotA "1" "1" overlapEnv
              ⟨.start, .start, World.init⟩ lockstep).b.pending = 0 →
          1 ≤ (race "stm" "gtfsrt_trip_updates" snapshotA "1" "1" overlapEnv
            ⟨.start, .start, World.init⟩ lockstep).world.hashRows (rawTable "gtfsrt_trip_updates")
              "stm" (overlapEnv.sha256Hex snapshotA.data))) :=
  have ha : AllSucceed overlapEnv := fun _ _ => rfl
  have hm : parseFeedMeta overlapEnv.budget snapshotA = .ret ⟨1, none⟩ := by decide
  ⟨ha, hm, rfl, race_inv ha hm "1" "1" World.init rfl lockstep⟩

/-- **Both executions store when both `SELECT`s come first.**  Without a uniqueness constraint
both return `saved`, and the table holds two rows with the hash and the bucket two objects with
the same bytes, a second apart; with one, the second `INSERT` throws after its object is
written. -/
theorem race_lockstep :
    (race "stm" "gtfsrt_trip_updates" snapshotA "1" "1" overlapEnv ⟨.start, .start, World.init⟩
        lockstep).a = .returned (.saved (rtPath "stm" "gtfsrt_trip_updates" (overlapEnv.clock 0))) ∧
      (race "stm" "gtfsrt_trip_updates" snapshotA "1" "1" overlapEnv ⟨.start, .start, World.init⟩
        lockstep).b = .returned (.saved (rtPath "stm" "gtfsrt_trip_updates" (overlapEnv.clock 1))) ∧
      (race "stm" "gtfsrt_trip_updates" snapshotA "1" "1" overlapEnv ⟨.start, .start, World.init⟩
        lockstep).world.hashRows (rawTable "gtfsrt_trip_updates") "stm"
        (overlapEnv.sha256Hex snapshotA.data) = 2 ∧
      (race "stm" "gtfsrt_trip_updates" snapshotA "1" "1" overlapEnv ⟨.start, .start, World.init⟩
        lockstep).world.bucket.map (·.body) = [snapshotA.data, snapshotA.data] ∧
      (race "stm" "gtfsrt_trip_updates" snapshotA "1" "1" overlapUniqueEnv
        ⟨.start, .start, World.init⟩ lockstep).b = .threw uniqueError ∧
      (race "stm" "gtfsrt_trip_updates" snapshotA "1" "1" overlapUniqueEnv
        ⟨.start, .start, World.init⟩ lockstep).world.bucket.map (·.body) =
        [snapshotA.data, snapshotA.data] := by
  decide

end Transit
