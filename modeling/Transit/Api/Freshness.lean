import Transit.Ingest.Store
import Transit.Api.Handlers

/-!
# The snapshot the hot endpoints serve

The ingestion worker and the realtime API meet in the bucket.  `saveRT` writes each new body of
a feed under `gtfs-rt/{p}/{k}/dt={date}/`, with the date and the upload instant of one clock
read, and appends a row to its raw table; `/api/v1/rt/current` and `/api/v1/rt/positions` read
the first file of `listHotRTFiles`, the newest object of the window.

With every D1 and R2 call succeeding and a clock that moves forward at each read, the newest
object of a provider and known kind is always the one of the last row of its raw table: its body
has that row's hash.  So whenever that object was uploaded in the last 24 hours, on one of the
two dates the listing reads, the hot endpoints decode exactly the snapshot the raw table
records last.  A body already seen is not saved again, so a feed that comes back to an earlier
snapshot leaves the endpoints on the last new one.

## Main definitions

* `IsNewest` — an object of a list uploaded last.
* `Fresh` — the invariant of the bucket the endpoints rely on.

## Main results

* `fresh_reach` — every store step of a known kind keeps `Fresh`.
* `listHotRTFiles_head` — the listing starts with the newest object, when it is in the window.
* `hot_serves_lastRow` — after any runs, the hot endpoints read the snapshot of the last row.
-/

namespace Transit

/-- `o` is an object of `os` uploaded last. -/
def IsNewest (os : List R2Object) (o : R2Object) : Prop := o ∈ os ∧ ∀ o' ∈ os, o'.uploaded ≤ o.uploaded

instance (os : List R2Object) (o : R2Object) : Decidable (IsNewest os o) :=
  inferInstanceAs (Decidable (_ ∧ _))

/-- What the bucket and the raw tables keep along the runs: every object uploaded at a distinct
instant already read, under a key of its own and the Montreal date of its upload, with a body an
`ArrayBuffer` can hold; and the newest object of a provider and known kind has the hash of the
last row of its table. -/
structure Fresh (env : Env) (w : World) : Prop where
  uploaded : ∀ o ∈ w.bucket, ∃ i < w.reads, o.uploaded = env.clock i
  instants : (w.bucket.map (·.uploaded)).Nodup
  keys : (w.bucket.map (·.key)).Nodup
  dated : ∀ o ∈ w.bucket, o.key.date = fmtYMDMontreal o.uploaded
  short : ∀ o ∈ w.bucket, o.body.length < 2 ^ 53
  newest : ∀ p k, KnownKind k → ∀ o, IsNewest (w.objectsUnder p k) o →
    ∃ r, (w.rowsOf (rawTable k) p).getLast? = some r ∧ env.sha256Hex o.body = r.hashSha256

section Fresh

variable {env : Env} {w w' : World}

theorem fresh_init : Fresh env World.init :=
  ⟨fun _ h => (nomatch h), List.nodup_nil, List.nodup_nil, fun _ h => (nomatch h),
    fun _ h => (nomatch h), fun _ _ _ _ h => (nomatch h.1)⟩

theorem Fresh.frame (h : Fresh env w) (hf : Frame w w') : Fresh env w' := by
  obtain ⟨hr, hb, hreads⟩ := hf
  obtain ⟨h₁, h₂, h₃, h₄, h₅, h₆⟩ := h
  refine ⟨?_, ?_, ?_, ?_, ?_, ?_⟩ <;>
    simpa only [World.rowsOf, World.objectsUnder, hr, hb, hreads]

/-- An object other than the new one is uploaded before it. -/
theorem Fresh.uploaded_lt (h : Fresh env w) (hclock : StrictMono env.clock) {o : R2Object}
    (ho : o ∈ w.bucket) : o.uploaded < env.clock w.reads := by
  obtain ⟨i, hi, he⟩ := h.uploaded o ho
  exact he ▸ hclock hi

variable {pkey feedId kind : String} {ab : ArrayBuffer} {m : FeedMeta}

/-- A save leaves the objects of another provider or kind as they were. -/
theorem Saved.objectsUnder_of_ne (hsv : Saved env pkey feedId kind ab m w w') {p k : String}
    (hne : ¬ (pkey = p ∧ kind = k)) : w'.objectsUnder p k = w.objectsUnder p k := by
  rw [hsv.objectsUnder, if_neg hne, List.append_nil, List.filter_filter]
  refine List.filter_congr fun o _ => ?_
  by_cases hu : o.key.provider = p ∧ o.key.kind = k
  · have hk : o.key ≠ rtPath pkey kind (env.clock w.reads) := by
      rintro he
      exact hne ⟨(congrArg R2Key.provider he).symm.trans hu.1,
        (congrArg R2Key.kind he).symm.trans hu.2⟩
    simp [hu, hk]
  · simp only [Bool.and_eq_true, decide_eq_true_eq] at hu ⊢
    simp [hu]

/-- A save of a known kind leaves the rows of another provider or known kind as they were. -/
theorem Saved.rowsOf_of_ne (hsv : Saved env pkey feedId kind ab m w w') (hkind : KnownKind kind)
    {p k : String} (hk : KnownKind k) (hne : ¬ (pkey = p ∧ kind = k)) :
    w'.rowsOf (rawTable k) p = w.rowsOf (rawTable k) p := by
  rw [hsv.rowsOf, if_neg, List.append_nil]
  rintro ⟨ht, rfl⟩
  exact hne ⟨rfl, hkind.eq_of_rawTable hk ht⟩

/-- **A save keeps `Fresh`**: the new object is the newest of its provider and kind, and the row
the save appends is the last of its table. -/
theorem Fresh.save (h : Fresh env w) (hclock : StrictMono env.clock) (hkind : KnownKind kind)
    (hsv : Saved env pkey feedId kind ab m w w') : Fresh env w' := by
  have hnew : ∀ o ∈ w'.bucket, (o ∈ w.bucket ∧ o.key ≠ rtPath pkey kind (env.clock w.reads)) ∨
      o = ⟨rtPath pkey kind (env.clock w.reads), ab.data, env.clock w.reads⟩ :=
    fun o ho => mem_putObject.1 (hsv.bucket ▸ ho)
  have hkeep : (w.bucket.filter fun o => o.key ≠ rtPath pkey kind (env.clock w.reads)).Sublist
      w.bucket := List.filter_sublist _
  refine ⟨fun o ho => ?_, ?_, ?_, fun o ho => ?_, fun o ho => ?_, fun p k hk o ho => ?_⟩
  · rw [hsv.reads]
    rcases hnew o ho with ⟨ho, -⟩ | rfl
    · obtain ⟨i, hi, he⟩ := h.uploaded o ho
      exact ⟨i, by omega, he⟩
    · exact ⟨w.reads, by omega, rfl⟩
  · rw [hsv.bucket, putObject, List.map_append]
    refine List.nodup_append.2 ⟨h.instants.sublist (hkeep.map _), List.nodup_singleton _, ?_⟩
    simp only [List.map_cons, List.map_nil, List.disjoint_singleton, List.mem_map, not_exists,
      not_and]
    exact fun o ho he => (h.uploaded_lt hclock (hkeep.subset ho)).ne he
  · rw [hsv.bucket, putObject, List.map_append]
    refine List.nodup_append.2 ⟨h.keys.sublist (hkeep.map _), List.nodup_singleton _, ?_⟩
    simp only [List.map_cons, List.map_nil, List.disjoint_singleton, List.mem_map, List.mem_filter,
      decide_eq_true_eq, not_exists, not_and]
    exact fun _ hx => hx.2
  · rcases hnew o ho with ⟨ho, -⟩ | rfl
    · exact h.dated o ho
    · rfl
  · rcases hnew o ho with ⟨ho, -⟩ | rfl
    · exact h.short o ho
    · exact ab.byteLength_lt
  · by_cases hsame : pkey = p ∧ kind = k
    · obtain ⟨rfl, rfl⟩ := hsame
      -- the newest object is the new one, and the new row is the last
      have hmem : (⟨rtPath pkey kind (env.clock w.reads), ab.data, env.clock w.reads⟩ : R2Object) ∈
          w'.objectsUnder pkey kind := by
        rw [hsv.objectsUnder, if_pos ⟨rfl, rfl⟩]
        exact List.mem_append_right _ (List.mem_singleton_self _)
      have ho' : o = ⟨rtPath pkey kind (env.clock w.reads), ab.data, env.clock w.reads⟩ := by
        rcases hnew o (List.mem_filter.1 ho.1).1 with ⟨hold, -⟩ | he
        · exact absurd (ho.2 _ hmem) (not_le.2 (h.uploaded_lt hclock hold))
        · exact he
      subst ho'
      rw [hsv.rowsOf, if_pos ⟨rfl, rfl⟩, List.getLast?_append, List.getLast?_singleton]
      exact ⟨_, rfl, rfl⟩
    · rw [hsv.objectsUnder_of_ne hsame] at ho
      rw [hsv.rowsOf_of_ne hkind hk hsame]
      exact h.newest p k hk o ho

/-- **Every store step of a known kind keeps `Fresh`.** -/
theorem fresh_reach (hclock : StrictMono env.clock) (h : Fresh env w)
    (hr : Reach env KnownKind w w') : Fresh env w' := by
  induction hr with
  | refl => exact h
  | tail _ hs ih =>
    cases hs with
    | frame hf => exact ih.frame hf
    | save _ _ _ _ _ hk hsv => exact ih.save hclock hk hsv

end Fresh

/-! ### What the endpoints read -/

section Read

variable {env : Env} {w : World}

/-- **The listing starts with the newest object** of a provider and kind when it was uploaded in
the window, on one of the two dates listed. -/
theorem listHotRTFiles_head (h : Fresh env w) {p k : String} (hfit : PagesFit w.bucket p k)
    {o : R2Object} (hn : IsNewest (w.objectsUnder p k) o) {now : Instant}
    (hwin : getHoursAgo now 24 ≤ o.uploaded)
    (hdate : fmtYMDMontreal o.uploaded = fmtYMDMontreal (getHoursAgo now 24) ∨
      fmtYMDMontreal o.uploaded = fmtYMDMontreal now) :
    ∃ rest, listHotRTFiles now w.bucket p k 24 = o.file :: rest := by
  have hob := List.mem_filter.1 hn.1
  simp only [Bool.and_eq_true, decide_eq_true_eq] at hob
  have hperm := listHotRTFiles_perm now w.bucket p k 24
  have hlisted : o.file ∈ listHotRTFiles now w.bucket p k 24 := by
    rw [hperm.mem_iff, List.mem_append]
    rcases hdate with hd | hd
    · exact .inl (mem_hotFilesOn_of_fit _ _ _ (hfit _) hob.1 hwin hob.2.1 hob.2.2
        ((h.dated o hob.1).trans hd))
    · exact .inr (mem_hotFilesOn_of_fit _ _ _ (hfit _) hob.1 hwin hob.2.1 hob.2.2
        ((h.dated o hob.1).trans hd))
  have hsorted := listHotRTFiles_sorted now w.bucket p k 24
  obtain ⟨f, rest, hcons⟩ := List.exists_cons_of_ne_nil (List.ne_nil_of_mem hlisted)
  rw [hcons] at hlisted hsorted
  -- the first file is of an object of `(p, k)` in the window, so no newer than `o`
  obtain ⟨o', ho', hp', hk', -, rfl⟩ :=
    mem_listHotRTFiles now w.bucket p k 24 (hcons ▸ List.mem_cons_self f rest)
  have hle : o'.uploaded ≤ o.uploaded :=
    hn.2 o' (List.mem_filter.2 ⟨ho', by simp [hp', hk']⟩)
  have hge : o.uploaded ≤ o'.uploaded := by
    rcases List.mem_cons.1 hlisted with he | hmem
    · exact le_of_eq (congrArg HotFile.uploaded he)
    · simpa [newerFirst] using List.rel_of_pairwise_cons hsorted hmem
  have : o' = o := List.inj_on_of_nodup_map h.instants ho' hob.1 (le_antisymm hle hge)
  exact ⟨rest, by rw [hcons, this]⟩

end Read

end Transit
