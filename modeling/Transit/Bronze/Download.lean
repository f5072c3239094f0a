import Transit.Bronze.StaticWorker

/-!
# The download loop of the cron

`scheduled`, once `ENABLE_CRON_STATIC` is set, downloads each static feed with

```
for (let i = 1; i <= 6; i++) {
  try { fetch; if (!res.ok) throw ...; ab = await res.arrayBuffer(); break; }
  catch (e) { lastErr = e; await sleep([1500, ..., 20000][i - 1] + randInt(0, 400)); }
}
```

Every exception of an attempt is caught, so the loop never throws.  It stops at the first
attempt whose response is ok and whose body is read, and gives that body; before it, each
failed attempt `i` slept `[...][i - 1]` ms and a jitter of at most 400 ms.  When all six fail it
gives no body and the sixth error, after six fetches and six sleeps, the last one included,
which add up to between 55.5 s and 57.9 s.

## Main definitions

* `World.fetches`, `World.sleeps` — the fetches made and the sleeps taken so far.
* `Backoff` — the sleep after a failed attempt.

## Main results

* `attempt_cases` — one attempt: a body from an ok response, or an error and its sleep.
* `downloadLoop_spec` — the loop over any list of attempts.
* `downloadLoop_backoff` — the six attempts of the cron.
-/

namespace Transit

namespace GtfsStatic

/-- The calls that fetch. -/
def Call.isFetch : Call → Bool
  | .fetch _ => true
  | _ => false

/-- The duration of a sleep. -/
def Call.sleep? : Call → Option ℕ
  | .sleep ms => some ms
  | _ => none

/-- The fetches made so far. -/
def World.fetches (w : World) : ℕ := w.calls.countP Call.isFetch

/-- The sleeps taken so far, in ms. -/
def World.sleeps (w : World) : List ℕ := w.calls.filterMap Call.sleep?

/-- The sleep after the failed attempt `i`: `[...][i - 1]` ms and a jitter of at most 400 ms. -/
def Backoff (i ms : ℕ) : Prop :=
  retryDelays.getD (i - 1) 0 ≤ ms ∧ ms ≤ retryDelays.getD (i - 1) 0 + 400

section Attempt

variable (env : Env) (w : World)

/-- The `catch` block records its sleep and gives back the error. -/
theorem backoff_apply (i : ℕ) (e : JsError) :
    backoff i e env w = (.ok (.error e),
      { w with draws := w.draws + 1,
               calls := w.calls ++ [.sleep (retryDelays.getD (i - 1) 0 + env.jitter w.draws)] }) :=
  rfl

/-- The `try` block fetches once and does not sleep; it gives the body of an ok response whose
body is read, and throws otherwise. -/
theorem tryDownload_cases (url : String) :
    (tryDownload url env w).2.fetches = w.fetches + 1 ∧
      (tryDownload url env w).2.sleeps = w.sleeps ∧
      (tryDownload url env w).2.draws = w.draws ∧
      ((∃ ab, (tryDownload url env w).1 = .ok (.ok ab) ∧ (env.respond w.calls.length).ok = true ∧
          ab = (env.respond w.calls.length).body ∧
          (tryDownload url env w).2.calls = w.calls ++ [.fetch url, .arrayBuffer]) ∨
        ∃ e, (tryDownload url env w).1 = .error e) := by
  simp only [tryDownload, fetchWithTimeout, arrayBuffer, call, bind_apply, read_apply, next_ok]
  cases hf : env.fails w.calls.length (.fetch url) with
  | some e => simp [World.fetches, World.sleeps, Call.isFetch, Call.sleep?]
  | none =>
    cases hok : (env.respond w.calls.length).ok with
    | false => simp [World.fetches, World.sleeps, Call.isFetch, Call.sleep?, hok]
    | true =>
      cases ha : env.fails (w.calls.length + 1) .arrayBuffer with
      | some e => simp [World.fetches, World.sleeps, Call.isFetch, Call.sleep?, call, hok, ha]
      | none => simp [World.fetches, World.sleeps, Call.isFetch, Call.sleep?, call, hok, ha]

/-- **One attempt** never throws: it gives the body of an ok response, after one fetch and no
sleep, or the error it caught, after one fetch and the sleep of its backoff. -/
theorem attempt_cases (url : String) (i : ℕ) :
    (attempt url i env w).2.fetches = w.fetches + 1 ∧
      ((∃ ab, (attempt url i env w).1 = .ok (.ok ab) ∧ (attempt url i env w).2.sleeps = w.sleeps ∧
          (env.respond w.calls.length).ok = true ∧ ab = (env.respond w.calls.length).body ∧
          (attempt url i env w).2.calls = w.calls ++ [.fetch url, .arrayBuffer]) ∨
        ∃ e ms, (attempt url i env w).1 = .ok (.error e) ∧
          (attempt url i env w).2.sleeps = w.sleeps ++ [ms] ∧ Backoff i ms) := by
  obtain ⟨hfetch, hsleep, -, hcase⟩ := tryDownload_cases env w url
  rcases hcase with ⟨ab, hab, hok, hbody, hcalls⟩ | ⟨e, he⟩
  · rw [attempt, tryCatch_of_ok hab]
    exact ⟨hfetch, .inl ⟨ab, hab, hsleep, hok, hbody, hcalls⟩⟩
  · rw [attempt, tryCatch_of_error he, backoff_apply]
    have hj := (env.jitter (tryDownload url env w).2.draws).isLt
    exact ⟨by simpa [World.fetches, Call.isFetch] using hfetch,
      .inr ⟨e, retryDelays.getD (i - 1) 0 + env.jitter (tryDownload url env w).2.draws, rfl,
        by simp only [World.sleeps] at hsleep ⊢; simp [Call.sleep?, hsleep], by omega, by omega⟩⟩

end Attempt

/-- **The download loop**, over attempts `is`: it never throws, and for some `k`, the sleeps of
its first `k` attempts are their backoffs, and either attempt `k + 1` gave the body of an ok
response to its fetch, read by the last call, or there was none left, all attempts failed, and
the last error is kept. -/
theorem downloadLoop_spec (env : Env) (url : String) :
    ∀ (is : List ℕ) (lastErr : Option JsError) (w : World), ∃ k ms,
      (downloadLoop url is lastErr env w).2.sleeps = w.sleeps ++ ms ∧
      List.Forall₂ Backoff (is.take k) ms ∧
      ((∃ ab e, (downloadLoop url is lastErr env w).1 = .ok (some ab, e) ∧ k < is.length ∧
          (downloadLoop url is lastErr env w).2.fetches = w.fetches + (k + 1) ∧
          ∃ n, (env.respond n).ok = true ∧ ab = (env.respond n).body ∧
            (downloadLoop url is lastErr env w).2.calls.drop n = [.fetch url, .arrayBuffer]) ∨
        ∃ e, (downloadLoop url is lastErr env w).1 = .ok (none, e) ∧ k = is.length ∧
          (downloadLoop url is lastErr env w).2.fetches = w.fetches + k ∧
          (is ≠ [] → e.isSome))
  | [], lastErr, w => ⟨0, [], by simp [downloadLoop], List.Forall₂.nil,
      .inr ⟨lastErr, rfl, rfl, by simp [downloadLoop], fun h => absurd rfl h⟩⟩
  | i :: is, lastErr, w => by
    have hstep : downloadLoop url (i :: is) lastErr env w = next (attempt url i env w) fun r w' =>
        match r with
        | .ok ab => (.ok (some ab, lastErr), w')
        | .error e => downloadLoop url is (some e) env w' := by
      simp only [downloadLoop, bind_apply]
      congr 1
      funext r w'
      cases r <;> rfl
    obtain ⟨hfetch, ⟨ab, hab, hsleep, hok, hbody, hcalls⟩ | ⟨e, ms, he, hsleep, hb⟩⟩ :=
      attempt_cases env w url i
    · have hloop : downloadLoop url (i :: is) lastErr env w =
          (.ok (some ab, lastErr), (attempt url i env w).2) := by
        rw [hstep, next_of_ok hab]
      refine ⟨0, [], by rw [hloop, hsleep, List.append_nil], List.Forall₂.nil,
        .inl ⟨ab, lastErr, by rw [hloop], by simp, by rw [hloop, hfetch], w.calls.length, hok,
          hbody, by rw [hloop, hcalls, List.drop_left]⟩⟩
    · have hloop : downloadLoop url (i :: is) lastErr env w =
          downloadLoop url is (some e) env (attempt url i env w).2 := by
        rw [hstep, next_of_ok he]
      obtain ⟨k, mss, hs, hf, hcase⟩ :=
        downloadLoop_spec env url is (some e) (attempt url i env w).2
      rw [hloop]
      refine ⟨k + 1, ms :: mss, by rw [hs, hsleep, List.append_assoc, List.singleton_append],
        List.Forall₂.cons hb hf, ?_⟩
      rcases hcase with ⟨ab, e', hr, hk, hfe, hn⟩ | ⟨e', hr, hk, hfe, hsome⟩
      · exact .inl ⟨ab, e', hr, by simp [hk], by rw [hfe, hfetch]; ring, hn⟩
      · refine .inr ⟨e', hr, by simp [hk], by rw [hfe, hfetch]; ring, fun _ => ?_⟩
        cases is with
        | nil =>
          simp only [downloadLoop, pure_apply, Except.ok.injEq, Prod.mk.injEq, true_and] at hr
          simp [← hr]
        | cons j js => exact hsome (List.cons_ne_nil j js)

/-- The sleeps of failed attempts add up to their delays and at most 400 ms each. -/
theorem Backoff.sum {is ms : List ℕ} (h : List.Forall₂ Backoff is ms) :
    (is.map fun i => retryDelays.getD (i - 1) 0).sum ≤ ms.sum ∧
      ms.sum ≤ (is.map fun i => retryDelays.getD (i - 1) 0).sum + 400 * is.length := by
  induction h with
  | nil => simp
  | cons hb _ ih =>
    simp only [List.map_cons, List.sum_cons, List.length_cons]
    obtain ⟨h₁, h₂⟩ := hb
    constructor <;> omega

/-- **The cron's six attempts.**  For every environment and world, the download of a feed never
throws.  Either it gives the body of an ok response after `k + 1 ≤ 6` fetches, having slept the
backoff of each of the `k` failed attempts before, or it gives no body and a last error after
six fetches and six sleeps, the last one included, which add up to between 55.5 s and 57.9 s. -/
theorem downloadLoop_backoff (env : Env) (url : String) (w : World) :
    (∃ ab e k ms, (downloadLoop url [1, 2, 3, 4, 5, 6] none env w).1 = .ok (some ab, e) ∧ k < 6 ∧
        (downloadLoop url [1, 2, 3, 4, 5, 6] none env w).2.fetches = w.fetches + (k + 1) ∧
        (downloadLoop url [1, 2, 3, 4, 5, 6] none env w).2.sleeps = w.sleeps ++ ms ∧
        List.Forall₂ Backoff ([1, 2, 3, 4, 5, 6].take k) ms ∧
        ∃ n, (env.respond n).ok = true ∧ ab = (env.respond n).body) ∨
      ∃ e ms, (downloadLoop url [1, 2, 3, 4, 5, 6] none env w).1 = .ok (none, some e) ∧
        (downloadLoop url [1, 2, 3, 4, 5, 6] none env w).2.fetches = w.fetches + 6 ∧
        (downloadLoop url [1, 2, 3, 4, 5, 6] none env w).2.sleeps = w.sleeps ++ ms ∧
        List.Forall₂ Backoff [1, 2, 3, 4, 5, 6] ms ∧ 55500 ≤ ms.sum ∧ ms.sum ≤ 57900 := by
  obtain ⟨k, ms, hs, hb, ⟨ab, e, hr, hk, hf, n, hok, hbody, -⟩ | ⟨e, hr, hk, hf, hsome⟩⟩ :=
    downloadLoop_spec env url [1, 2, 3, 4, 5, 6] none w
  · exact .inl ⟨ab, e, k, ms, hr, hk, hf, hs, hb, n, hok, hbody⟩
  · subst hk
    obtain ⟨e', rfl⟩ := Option.isSome_iff_exists.1 (hsome (List.cons_ne_nil _ _))
    have hsum := Backoff.sum hb
    exact .inr ⟨e', ms, hr, hf, hs, hb, by simpa [retryDelays] using hsum.1,
      by simpa [retryDelays] using hsum.2⟩

end GtfsStatic

end Transit
