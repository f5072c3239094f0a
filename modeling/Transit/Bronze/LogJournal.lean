import Transit.Bronze.StaticWorker

/-!
# What the static worker writes

As deployed, with `ENABLE_CRON_STATIC` `false`, the static worker writes to D1 only through
`POST /log`, and a request gets there only with the shared secret.  Such a request inserts its
`ingest_log` line and then, when the body's `detail` names a file, the `gtfs_files` row of that
file; a throw of either `INSERT` is caught and answered `500`, leaving what was written before
it.  So over any run the lines added to `ingest_log` are lines of authorized bodies, and each row
added to `gtfs_files` is the file that a line added before it describes: the files are a
journal of the log.  The archives themselves are uploaded by the GitHub Action; the deployed
worker writes no object.

## Main definitions

* `Adds` — what a computation appends to the two tables.
* `LogLine.file?` — the file an `ingest_log` line describes, read as `/log` reads a body.
* `Journaled` — the files are, in order, files described by the lines, one at most per line.
* `Request.authorized`, `Event.line?` — the requests that get through, and the line each may add.

## Main results

* `postLog_ok` — a request answered `200` has added its line and its file.
* `fetch_adds` — what one request adds.
* `runEvents_authorized` — every line and file a run adds is one of an authorized request of the
  run, in order, and the bucket is left alone.
* `runEvents_journaled` — every row a run adds to `gtfs_files` is described by a line it added
  to `ingest_log` before it.
-/

namespace Transit

namespace GtfsStatic

/-! ### What a computation appends -/

/-- From `w` to `w'`: `lines` appended to `ingest_log`, `files` to `gtfs_files`, and the bucket
as it was. -/
structure Adds (w w' : World) (lines : List LogLine) (files : List GtfsFile) : Prop where
  log : w'.ingestLog = w.ingestLog ++ lines
  file : w'.gtfsFiles = w.gtfsFiles ++ files
  bucket : w'.bucket = w.bucket

namespace Adds

variable {w₁ w₂ w₃ : World} {l₁ l₂ : List LogLine} {f₁ f₂ : List GtfsFile}

theorem refl (w : World) : Adds w w [] [] :=
  ⟨(List.append_nil _).symm, (List.append_nil _).symm, rfl⟩

/-- A computation that appends nothing. -/
theorem frame (hl : w₂.ingestLog = w₁.ingestLog) (hf : w₂.gtfsFiles = w₁.gtfsFiles)
    (hb : w₂.bucket = w₁.bucket) : Adds w₁ w₂ [] [] := ⟨by simp [hl], by simp [hf], hb⟩

theorem trans (h₁ : Adds w₁ w₂ l₁ f₁) (h₂ : Adds w₂ w₃ l₂ f₂) : Adds w₁ w₃ (l₁ ++ l₂) (f₁ ++ f₂) :=
  ⟨by rw [h₂.log, h₁.log, List.append_assoc], by rw [h₂.file, h₁.file, List.append_assoc],
    h₂.bucket.trans h₁.bucket⟩

end Adds

/-! ### The file a line describes -/

/-- The file an `ingest_log` line describes: the `gtfs_files` row that `/log` inserts for the
line's provider, feed and detail. -/
def LogLine.file? (l : LogLine) : Option GtfsFile :=
  l.detail_json.bind (fileRow? l.provider_key l.feed_id)

/-- A falsy detail names no file: it is no object. -/
theorem fileRow?_of_not_truthy {p f d : Json} (h : d.truthy = false) : fileRow? p f d = none := by
  unfold fileRow?
  cases hk : d.get? "r2_key" with
  | none => rfl
  | some k => simp [Json.truthy_of_get? hk] at h

/-- The line `log` writes describes the file `/log` inserts for the same provider, feed and
detail. -/
theorem logLine_file? (level msg p f d : Json) :
    (logLine level msg p f d).file? = fileRow? p f d := by
  cases hd : d.truthy <;> simp [logLine, LogLine.file?, hd, fileRow?_of_not_truthy]

/-- The files are, in order, files described by the lines, one at most for each line. -/
def Journaled (lines : List LogLine) (files : List GtfsFile) : Prop :=
  files.Sublist (lines.filterMap LogLine.file?)

theorem Journaled.nil : Journaled [] [] := List.Sublist.slnil

theorem Journaled.append {l₁ l₂ : List LogLine} {f₁ f₂ : List GtfsFile} (h₁ : Journaled l₁ f₁)
    (h₂ : Journaled l₂ f₂) : Journaled (l₁ ++ l₂) (f₁ ++ f₂) := by
  unfold Journaled
  rw [List.filterMap_append]
  exact List.Sublist.append h₁ h₂

/-! ### One request -/

/-- The line of a body. -/
def LogBody.line (b : LogBody) : LogLine :=
  logLine b.level b.message b.provider_key b.feed_id b.detail

/-- The file of a body. -/
def LogBody.file? (b : LogBody) : Option GtfsFile := fileRow? b.provider_key b.feed_id b.detail

/-- The fields of a body, when `req.json()` resolves and the destructuring succeeds. -/
def bodyOf : Except JsError Json → Option LogBody
  | .ok v => match LogBody.of v with
    | .ok b => some b
    | .error _ => none
  | .error _ => none

section Steps

variable (env : Env) (w : World)

@[simp] theorem call_snd (c : Call) : (call c env w).2 = { w with calls := w.calls ++ [c] } := by
  unfold call; split <;> rfl

theorem call_fst (c : Call) :
    (call c env w).1 = match env.fails w.calls.length c with
      | some e => .error e
      | none => .ok () := by
  unfold call; split <;> simp_all

/-- A body that parses and destructures is logged, and then its file, each `INSERT` as D1
answers it. -/
theorem postLog_eq_of_body {json : Except JsError Json} {b : LogBody} (hb : bodyOf json = some b) :
    postLog json env w = next (log b.level b.message b.provider_key b.feed_id b.detail env w)
      fun _ w' => match b.file? with
        | some row => insertFile row env w'
        | none => (.ok (), w') := by
  unfold bodyOf at hb
  split at hb
  · rename_i v
    split at hb
    · rename_i b' hb'
      cases hb
      simp only [postLog, bind_apply, liftExcept_apply, next_ok, hb', LogBody.file?]
      congr 1
      funext _ w'
      cases fileRow? b.provider_key b.feed_id b.detail <;> rfl
    · cases hb
  · cases hb

/-- A body that does not parse or destructure is rejected before any call. -/
theorem postLog_eq_of_none {json : Except JsError Json} (hb : bodyOf json = none) :
    ∃ e, postLog json env w = (.error e, w) := by
  unfold bodyOf at hb
  split at hb
  · rename_i v
    split at hb
    · cases hb
    · rename_i e he
      exact ⟨e, by simp [postLog, he]⟩
  · rename_i e
    exact ⟨e, rfl⟩

theorem log_adds (level msg p f d : Json) :
    (∃ e, (log level msg p f d env w).1 = .error e ∧ Adds w (log level msg p f d env w).2 [] []) ∨
      ((log level msg p f d env w).1 = .ok () ∧
        Adds w (log level msg p f d env w).2 [logLine level msg p f d] []) := by
  cases h : env.fails w.calls.length (.insertLog (logLine level msg p f d)) with
  | some e =>
    exact .inl ⟨e, by simp [log, call, h], by simp [log, call, h]; exact Adds.frame rfl rfl rfl⟩
  | none => exact .inr ⟨by simp [log, call, h], by simp [log, call, h]; exact ⟨rfl, by simp, rfl⟩⟩

theorem insertFile_adds (row : GtfsFile) :
    (∃ e, (insertFile row env w).1 = .error e ∧ Adds w (insertFile row env w).2 [] []) ∨
      ((insertFile row env w).1 = .ok () ∧ Adds w (insertFile row env w).2 [] [row]) := by
  cases h : env.fails w.calls.length (.insertFile row) with
  | some e =>
    exact .inl ⟨e, by simp [insertFile, call, h],
      by simp [insertFile, call, h]; exact Adds.frame rfl rfl rfl⟩
  | none =>
    exact .inr ⟨by simp [insertFile, call, h],
      by simp [insertFile, call, h]; exact ⟨by simp, rfl, rfl⟩⟩

/-- What the `try` block of `POST /log` appends, however it ends: at most the line of its body,
and the file of the body only after the line. -/
theorem postLog_adds (json : Except JsError Json) :
    ∃ lines files, Adds w (postLog json env w).2 lines files ∧
      lines.Sublist ((bodyOf json).map LogBody.line).toList ∧ Journaled lines files := by
  cases hb : bodyOf json with
  | none =>
    obtain ⟨e, he⟩ := postLog_eq_of_none env w hb
    exact ⟨[], [], by rw [he]; exact Adds.refl w, List.nil_sublist _, Journaled.nil⟩
  | some b =>
    rw [postLog_eq_of_body env w hb]
    have hline : b.line.file? = b.file? := logLine_file? _ _ _ _ _
    rcases log_adds env w b.level b.message b.provider_key b.feed_id b.detail with
      ⟨e, he, ha⟩ | ⟨ho, ha⟩
    · exact ⟨[], [], by rw [next_of_error he]; exact ha, List.nil_sublist _, Journaled.nil⟩
    · rw [next_of_ok ho]
      cases hf : b.file? with
      | none => exact ⟨[b.line], [], ha, List.Sublist.refl _, List.nil_sublist _⟩
      | some row =>
        have hj : Journaled [b.line] [row] := by simp [Journaled, hline, hf]
        rcases insertFile_adds env (log b.level b.message b.provider_key b.feed_id
            b.detail env w).2 row with ⟨_, -, ha'⟩ | ⟨-, ha'⟩
        · exact ⟨[b.line], [], by simpa using ha.trans ha', List.Sublist.refl _,
            List.nil_sublist _⟩
        · exact ⟨[b.line], [row], by simpa using ha.trans ha', List.Sublist.refl _, hj⟩

/-- **A `Logged ✅` means both writes happened.**  When the `try` block of `POST /log` returns,
the body parsed and destructured, its line is appended to `ingest_log`, and its file, when its
detail names one, to `gtfs_files`. -/
theorem postLog_ok {json : Except JsError Json} (h : (postLog json env w).1 = .ok ()) :
    ∃ b, bodyOf json = some b ∧ Adds w (postLog json env w).2 [b.line] b.file?.toList := by
  cases hb : bodyOf json with
  | none =>
    obtain ⟨e, he⟩ := postLog_eq_of_none env w hb
    rw [he] at h
    cases h
  | some b =>
    refine ⟨b, rfl, ?_⟩
    rw [postLog_eq_of_body env w hb] at h ⊢
    rcases log_adds env w b.level b.message b.provider_key b.feed_id b.detail with
      ⟨e, he, -⟩ | ⟨ho, ha⟩
    · rw [next_of_error he] at h
      cases h
    · rw [next_of_ok ho] at h ⊢
      cases hf : b.file? with
      | none => simpa [hf] using ha
      | some row =>
        rw [hf] at h
        rcases insertFile_adds env (log b.level b.message b.provider_key b.feed_id
            b.detail env w).2 row with ⟨_, he', -⟩ | ⟨-, ha'⟩
        · simp only [he'] at h
          cases h
        · simpa using ha.trans ha'

end Steps

/-! ### Requests and runs -/

/-- The request is a `POST /log` the secret lets through. -/
def Request.authorized (env : Env) (req : Request) : Bool :=
  req.method == "POST" && req.pathname == "/log" && !rejects env.LOG_SHARED_SECRET req.secret

/-- The line a request may add: that of its body, when it is authorized and its body parses. -/
def Request.line? (env : Env) (req : Request) : Option LogLine :=
  if req.authorized env then (bodyOf req.json).map LogBody.line else none

/-- The line an event may add. -/
def Event.line? (env : Env) : Event → Option LogLine
  | .request req => req.line? env
  | .tick => none

section Requests

variable (env : Env) (w : World)

/-- A request that is not an authorized `POST /log` is answered without a call. -/
theorem fetch_of_not_authorized {req : Request} (h : req.authorized env = false) :
    ∃ reply, fetch req env w = (.ok reply, w) := by
  unfold fetch
  split
  · exact ⟨_, rfl⟩
  · split
    · rename_i hpost
      have hrej : rejects env.LOG_SHARED_SECRET req.secret = true := by
        simpa [Request.authorized, hpost.1, hpost.2] using h
      exact ⟨⟨401, "Unauthorized"⟩, by simp [hrej]⟩
    · exact ⟨_, rfl⟩

/-- An authorized `POST /log` answers `Logged ✅` when its `try` block returns, and
`Log error: ...` with what it threw otherwise. -/
theorem fetch_of_authorized {req : Request} (h : req.authorized env = true) :
    fetch req env w = match postLog req.json env w with
      | (.ok _, w') => (.ok ⟨200, "Logged ✅"⟩, w')
      | (.error e, w') => (.ok ⟨500, "Log error: " ++ errorText e⟩, w') := by
  simp only [Request.authorized, Bool.and_eq_true, beq_iff_eq, Bool.not_eq_true'] at h
  obtain ⟨⟨hpost, hlog⟩, hrej⟩ := h
  have hget : req.method ≠ "GET" := by rw [hpost]; decide
  simp only [fetch, if_neg hget, if_pos (And.intro hpost hlog), bind_apply, read_apply, next_ok,
    hrej, Bool.false_eq_true, if_false, pure_apply, tryCatch]
  obtain ⟨r, w'⟩ := postLog req.json env w
  cases r <;> rfl

/-- What one request appends: at most the line of an authorized body, and its file only after
it. -/
theorem fetch_adds (req : Request) :
    ∃ lines files, Adds w (fetch req env w).2 lines files ∧
      lines.Sublist (req.line? env).toList ∧ Journaled lines files := by
  cases hauth : req.authorized env with
  | false =>
    obtain ⟨reply, hr⟩ := fetch_of_not_authorized env w hauth
    exact ⟨[], [], by rw [hr]; exact Adds.refl w, List.nil_sublist _, Journaled.nil⟩
  | true =>
    obtain ⟨lines, files, ha, hl, hj⟩ := postLog_adds env w req.json
    refine ⟨lines, files, ?_, by simpa [Request.line?, hauth] using hl, hj⟩
    have hsnd : (fetch req env w).2 = (postLog req.json env w).2 := by
      rw [fetch_of_authorized env w hauth]
      generalize postLog req.json env w = r
      rcases r with ⟨_ | _, _⟩ <;> rfl
    rw [hsnd]
    exact ha

/-- As deployed, a tick of the cron trigger does nothing. -/
theorem scheduled_apply : scheduled env w = (.ok (), w) := rfl

theorem Event.run_adds (e : Event) :
    ∃ lines files, Adds w (e.run env w).2 lines files ∧
      lines.Sublist (e.line? env).toList ∧ Journaled lines files := by
  cases e with
  | request req =>
    obtain ⟨lines, files, ha, hl, hj⟩ := fetch_adds env w req
    refine ⟨lines, files, ?_, hl, hj⟩
    have hsnd : ((Event.request req).run env w).2 = (fetch req env w).2 := by
      simp only [Event.run, bind_apply]
      generalize fetch req env w = r
      rcases r with ⟨_ | _, _⟩ <;> rfl
    rw [hsnd]
    exact ha
  | tick => exact ⟨[], [], by simp [Event.run, scheduled_apply env w]; exact Adds.refl w,
      List.nil_sublist _, Journaled.nil⟩

end Requests

/-- What a run appends: lines of the authorized bodies of the run, in order, and files that
those lines describe. -/
theorem runEvents_adds (env : Env) :
    ∀ (w : World) (evs : List Event), ∃ lines files, Adds w (runEvents env w evs) lines files ∧
      lines.Sublist (evs.filterMap (Event.line? env)) ∧ Journaled lines files
  | w, [] => ⟨[], [], Adds.refl w, List.nil_sublist _, Journaled.nil⟩
  | w, e :: es => by
    obtain ⟨l₁, f₁, ha₁, hl₁, hj₁⟩ := Event.run_adds env w e
    obtain ⟨l₂, f₂, ha₂, hl₂, hj₂⟩ := runEvents_adds env (e.run env w).2 es
    refine ⟨l₁ ++ l₂, f₁ ++ f₂, ha₁.trans ha₂, ?_, hj₁.append hj₂⟩
    rw [List.filterMap_cons]
    cases h : e.line? env with
    | none =>
      simp only [h, Option.toList_none, List.sublist_nil] at hl₁
      simpa [hl₁] using hl₂
    | some l =>
      simp only [h, Option.toList_some] at hl₁
      exact List.Sublist.append hl₁ hl₂

/-- **Only authorized requests write.**  For every environment, every world and every run of
requests and cron ticks, the deployed worker leaves the bucket as it was, and the lines it
appends to `ingest_log` and the rows it appends to `gtfs_files` are, in order, those of the
bodies of the run's authorized `POST /log` requests, one line and one file at most for each. -/
theorem runEvents_authorized (env : Env) (w : World) (evs : List Event) :
    (runEvents env w evs).bucket = w.bucket ∧
      ∃ lines files, (runEvents env w evs).ingestLog = w.ingestLog ++ lines ∧
        (runEvents env w evs).gtfsFiles = w.gtfsFiles ++ files ∧
        lines.Sublist (evs.filterMap (Event.line? env)) ∧
        files.Sublist (evs.filterMap fun e => (e.line? env).bind LogLine.file?) := by
  obtain ⟨lines, files, ha, hl, hj⟩ := runEvents_adds env w evs
  refine ⟨ha.bucket, lines, files, ha.log, ha.file, hl, hj.trans ?_⟩
  rw [← List.filterMap_filterMap]
  exact hl.filterMap _

/-- Without a shared secret, or with an empty one, no run writes anything. -/
theorem runEvents_of_rejects {env : Env} (h : ∀ p, rejects env.LOG_SHARED_SECRET p = true)
    (w : World) (evs : List Event) :
    (runEvents env w evs).ingestLog = w.ingestLog ∧ (runEvents env w evs).gtfsFiles = w.gtfsFiles ∧
      (runEvents env w evs).bucket = w.bucket := by
  obtain ⟨lines, files, ha, hl, hj⟩ := runEvents_adds env w evs
  have hnone : evs.filterMap (Event.line? env) = [] := by
    refine List.filterMap_eq_nil_iff.2 fun e _ => ?_
    cases e <;> simp [Event.line?, Request.line?, Request.authorized, h]
  rw [hnone, List.sublist_nil] at hl
  subst hl
  rw [Journaled, List.filterMap_nil, List.sublist_nil] at hj
  subst hj
  exact ⟨by simpa using ha.log, by simpa using ha.file, ha.bucket⟩

/-- **`gtfs_files` is a journal of `ingest_log`.**  For every environment, every world and
every run of the deployed worker, whatever each `INSERT` does, the rows the run appends to
`gtfs_files` are, in order, files described by lines it appends to `ingest_log`, one at most for
each line. -/
theorem runEvents_journaled (env : Env) (w : World) (evs : List Event) :
    ∃ lines files, (runEvents env w evs).ingestLog = w.ingestLog ++ lines ∧
      (runEvents env w evs).gtfsFiles = w.gtfsFiles ++ files ∧ Journaled lines files := by
  obtain ⟨lines, files, ha, -, hj⟩ := runEvents_adds env w evs
  exact ⟨lines, files, ha.log, ha.file, hj⟩

/-! ### The cron writes the file first -/

/-- Every call succeeds but the `INSERT`s into `ingest_log`, which throw `e`. -/
def LogsThrow (env : Env) (e : JsError) : Prop :=
  ∀ n c, env.fails n c = match c with
    | .insertLog _ => some e
    | _ => none

/-- The journal needs the cron off: `saveStatic` inserts the file before its line, so when the
`log` after it throws, the new row of `gtfs_files` has no line at all. -/
theorem saveStatic_fileFirst {env : Env} {e : JsError} (hlog : LogsThrow env e) (w : World)
    (pkey feed_id : String) (ab : ArrayBuffer)
    (hnew : (w.gtfsFiles.any fun r => r.provider_key.isStr pkey &&
      r.sha256.isStr (env.sha256Hex ab.data)) = false) :
    ∃ row, (saveStatic pkey feed_id ab env w).1 = .error e ∧
      (saveStatic pkey feed_id ab env w).2.ingestLog = w.ingestLog ∧
      (saveStatic pkey feed_id ab env w).2.gtfsFiles = w.gtfsFiles ++ [row] ∧
      ¬ Journaled [] [row] := by
  generalize hs : saveStatic pkey feed_id ab env w = res
  simp [saveStatic, selectFile, today, newDate, put, insertFile, log, call,
    show ∀ n c, env.fails n c = _ from hlog, hnew] at hs
  subst hs
  exact ⟨_, rfl, rfl, rfl, by simp [Journaled]⟩

end GtfsStatic

end Transit
