import Transit.Ingest.Worker

/-!
# The hot window

`listHotRTFiles` lists the snapshots of the last `hoursBack` hours.  It does not scan the bucket:
it lists two date partitions, `dt=` the Montreal date of the window's start and `dt=` the
Montreal date of now, keeps the objects uploaded since the start, and sorts them newest first.
`handleStatus` reports the first file and the number of files.

A `list` call returns one page, the first `1000` keys of the prefix; the loop reads no further,
so a partition of more objects is listed in part, the snapshots of its latest local times
missing.

Twenty-four hours back is the previous Montreal date on most days, but not around the changes
of offset.  In the last hour of the 25-hour day of November both dates are the same, and the
partition is listed twice; just after the 23-hour day of March the window spans three dates, and
the middle one is not listed.

## Main definitions

* `HotFile`, `partitionOf`, `listPrefix`, `hotFilesOn`, `listHotRTFiles` — the listing.
* `PagesFit` — no partition holds more than one page of a `list` call.
* `HotSummary`, `handleStatus` — what `/status` reports of it.

## Main results

* `listHotRTFiles_sorted` — the listing is sorted newest first.
* `mem_listHotRTFiles` — every file listed is of an object of the provider and kind in the window.
* `listHotRTFiles_exact` — exact when the two dates differ and cover the window, and the
  partitions fit in a page.
* `handleStatus_dst` — the two changes of 2025: a snapshot counted twice, and one not listed.
-/

namespace Transit

/-- A file of the listing: `{ key: obj.key, uploaded: timestamp }`. -/
structure HotFile where
  key : R2Key
  uploaded : Instant
  deriving DecidableEq, Repr

/-- The file of an object. -/
def R2Object.file (o : R2Object) : HotFile := ⟨o.key, o.uploaded⟩

/-- The objects under the prefix `gtfs-rt/{provider}/{feedKind}/dt={date}/`. -/
def partitionOf (bucket : List R2Object) (provider feedKind : String) (date : LocalDate) :
    List R2Object :=
  bucket.filter fun o => o.key.provider = provider && o.key.kind = feedKind && o.key.date = date

/-- The fields of a stamp, in the order its text `YYYY-MM-DDTHH-MM-SS` writes them. -/
def LocalDateTime.fields (t : LocalDateTime) : List ℤ :=
  [t.date.year, t.date.month, t.date.day, t.hour, t.minute, t.second]

/-- The order of the key texts `{kind}_{stamp}.pb` of one partition, as R2 compares them: for
stamps of four-digit years, the order of their fields; the text of `Invalid Date` after every
date. -/
def IsoText.textLE : IsoText → IsoText → Bool
  | .stamp a, .stamp b => decide (a.fields ≤ b.fields)
  | .stamp _, .invalidDate => true
  | .invalidDate, .stamp _ => false
  | .invalidDate, .invalidDate => true

/-- `R2_BRONZE.list({ prefix })` for the prefix `gtfs-rt/{provider}/{feedKind}/dt={date}/`, whose
`objects` the loop reads without a cursor: the first page, at most `1000` objects in key
order. -/
def listPrefix (bucket : List R2Object) (provider feedKind : String) (date : LocalDate) :
    List R2Object :=
  ((partitionOf bucket provider feedKind date).insertionSort fun a b =>
    a.key.stamp.textLE b.key.stamp).take 1000

/-- No partition of `(p, k)` holds more objects than the page of a `list` call. -/
def PagesFit (bucket : List R2Object) (p k : String) : Prop :=
  ∀ d, (partitionOf bucket p k d).length ≤ 1000

theorem PagesFit.of_length {bucket : List R2Object} (h : bucket.length ≤ 1000) (p k : String) :
    PagesFit bucket p k :=
  fun _ => (List.length_filter_le _ _).trans h

/-- The loop over one partition: the files uploaded at or after `threshold`.  R2 always sets
`uploaded`, so `new Date()` is never taken in its place. -/
def hotFilesOn (bucket : List R2Object) (provider feedKind : String) (threshold : Instant)
    (date : LocalDate) : List HotFile :=
  ((listPrefix bucket provider feedKind date).filter fun o => threshold ≤ o.uploaded).map
    R2Object.file

/-- The order of `files.sort((a, b) => b.uploaded - a.uploaded)`: newest first; the sort is
stable. -/
def newerFirst (a b : HotFile) : Bool := b.uploaded ≤ a.uploaded

/-- `listHotRTFiles(env, provider, feedKind, hoursBack)` at instant `now`; both `new Date()`
reads are taken to be `now`. -/
def listHotRTFiles (now : Instant) (bucket : List R2Object) (provider feedKind : String)
    (hoursBack : ℕ) : List HotFile :=
  let threshold := getHoursAgo now hoursBack
  let dates := [fmtYMDMontreal threshold, fmtYMDMontreal now]
  (dates.flatMap (hotFilesOn bucket provider feedKind threshold)).mergeSort newerFirst

/-- What `/status` reports of a listing. -/
structure HotSummary where
  latestFile : Option R2Key
  latestTimestamp : Option Instant
  fileCount : ℕ
  deriving DecidableEq, Repr

/-- `latest_file`, `latest_timestamp` and `file_count` of a listing. -/
def HotSummary.of (files : List HotFile) : HotSummary :=
  ⟨files.head?.map (·.key), files.head?.map (·.uploaded), files.length⟩

/-- The `hot_data` of `handleStatus` for the provider `stm`: trip updates and vehicle
positions. -/
def handleStatus (now : Instant) (bucket : List R2Object) : HotSummary × HotSummary :=
  (HotSummary.of (listHotRTFiles now bucket "stm" "gtfsrt_trip_updates" 24),
    HotSummary.of (listHotRTFiles now bucket "stm" "gtfsrt_vehicle_positions" 24))

/-- A snapshot of `stm` trip updates uploaded at instant `u`, under the partition of `u`. -/
def tripSnapshotAt (u : Instant) : R2Object :=
  ⟨rtPath "stm" "gtfsrt_trip_updates" u, [], u⟩

/-! ### What the listing holds -/

section Listing

variable (now : Instant) (bucket : List R2Object) (p k : String) (hours : ℕ)

/-- **The listing is sorted newest first.** -/
theorem listHotRTFiles_sorted :
    (listHotRTFiles now bucket p k hours).Pairwise fun a b => newerFirst a b := by
  apply List.sorted_mergeSort
  · intro a b c hab hbc
    simp only [newerFirst, decide_eq_true_eq] at hab hbc ⊢
    exact le_trans hbc hab
  · intro a b
    simp only [newerFirst, Bool.or_eq_true, decide_eq_true_eq]
    exact le_total _ _

theorem mem_listPrefix {d : LocalDate} {o : R2Object} (ho : o ∈ listPrefix bucket p k d) :
    o ∈ bucket ∧ o.key.provider = p ∧ o.key.kind = k ∧ o.key.date = d := by
  have := (List.perm_insertionSort _ _).subset (List.mem_of_mem_take ho)
  simpa [partitionOf, and_assoc] using this

/-- A partition that fits in a page is listed whole. -/
theorem listPrefix_perm {d : LocalDate} (hfit : (partitionOf bucket p k d).length ≤ 1000) :
    (listPrefix bucket p k d).Perm (partitionOf bucket p k d) := by
  rw [listPrefix, List.take_of_length_le (by rwa [List.length_insertionSort])]
  exact List.perm_insertionSort _ _

theorem mem_hotFilesOn {t : Instant} {d : LocalDate} {x : HotFile}
    (hx : x ∈ hotFilesOn bucket p k t d) :
    ∃ o ∈ bucket, t ≤ o.uploaded ∧ o.key.provider = p ∧ o.key.kind = k ∧ o.key.date = d ∧
      o.file = x := by
  obtain ⟨o, ho, rfl⟩ := List.mem_map.1 hx
  obtain ⟨ho, ht⟩ := List.mem_filter.1 ho
  obtain ⟨hb, hp, hk, hd⟩ := mem_listPrefix bucket p k ho
  exact ⟨o, hb, of_decide_eq_true ht, hp, hk, hd, rfl⟩

theorem mem_hotFilesOn_of_fit {t : Instant} {d : LocalDate}
    (hfit : (partitionOf bucket p k d).length ≤ 1000) {o : R2Object} (ho : o ∈ bucket)
    (ht : t ≤ o.uploaded) (hp : o.key.provider = p) (hk : o.key.kind = k) (hd : o.key.date = d) :
    o.file ∈ hotFilesOn bucket p k t d := by
  refine List.mem_map_of_mem _ (List.mem_filter.2 ⟨(listPrefix_perm bucket p k hfit).mem_iff.2 ?_,
    decide_eq_true ht⟩)
  simp [partitionOf, ho, hp, hk, hd]

theorem nodup_hotFilesOn (hkeys : (bucket.map (·.key)).Nodup) (t : Instant) (d : LocalDate) :
    (hotFilesOn bucket p k t d).Nodup := by
  refine List.Nodup.of_map HotFile.key ?_
  have hpart : ((partitionOf bucket p k d).map (·.key)).Nodup :=
    hkeys.sublist ((List.filter_sublist _).map _)
  have hlist : ((listPrefix bucket p k d).map (·.key)).Nodup :=
    (((List.perm_insertionSort _ _).map _).nodup_iff.2 hpart).sublist ((List.take_sublist _ _).map _)
  simpa only [hotFilesOn, List.map_map] using hlist.sublist ((List.filter_sublist _).map _)

/-- The listing is the two partitions' files, reordered. -/
theorem listHotRTFiles_perm :
    (listHotRTFiles now bucket p k hours).Perm
      (hotFilesOn bucket p k (getHoursAgo now hours) (fmtYMDMontreal (getHoursAgo now hours)) ++
        hotFilesOn bucket p k (getHoursAgo now hours) (fmtYMDMontreal now)) := by
  simp only [listHotRTFiles, List.flatMap_cons, List.flatMap_nil, List.append_nil]
  exact List.mergeSort_perm _ _

/-- Every file listed is of an object of `(p, k)` uploaded since the window's start. -/
theorem mem_listHotRTFiles {x : HotFile} (hx : x ∈ listHotRTFiles now bucket p k hours) :
    ∃ o ∈ bucket, o.key.provider = p ∧ o.key.kind = k ∧ getHoursAgo now hours ≤ o.uploaded ∧
      o.file = x := by
  rcases List.mem_append.1 ((listHotRTFiles_perm now bucket p k hours).mem_iff.1 hx) with h | h <;>
    obtain ⟨o, ho, ht, hp, hk, -, rfl⟩ := mem_hotFilesOn bucket p k h <;>
    exact ⟨o, ho, hp, hk, ht, rfl⟩

/-- **The listing is exact when the two dates differ and cover the window**, and no partition
exceeds a page: every file of an object of `(p, k)` uploaded since the window's start, once, and
nothing else, newest first. -/
theorem listHotRTFiles_exact (hkeys : (bucket.map (·.key)).Nodup) (hfit : PagesFit bucket p k)
    (hd : fmtYMDMontreal (getHoursAgo now hours) ≠ fmtYMDMontreal now)
    (hdated : ∀ o ∈ bucket, o.key.provider = p → o.key.kind = k →
      getHoursAgo now hours ≤ o.uploaded →
      o.key.date = fmtYMDMontreal (getHoursAgo now hours) ∨ o.key.date = fmtYMDMontreal now) :
    (listHotRTFiles now bucket p k hours).Nodup ∧
      (listHotRTFiles now bucket p k hours).Pairwise (fun a b => newerFirst a b) ∧
      ∀ x, x ∈ listHotRTFiles now bucket p k hours ↔
        ∃ o ∈ bucket, o.key.provider = p ∧ o.key.kind = k ∧ getHoursAgo now hours ≤ o.uploaded ∧
          o.file = x := by
  have hperm := listHotRTFiles_perm now bucket p k hours
  refine ⟨hperm.nodup_iff.2 (List.nodup_append.2 ⟨nodup_hotFilesOn _ _ _ hkeys _ _,
    nodup_hotFilesOn _ _ _ hkeys _ _, fun x h₁ h₂ => hd ?_⟩), listHotRTFiles_sorted _ _ _ _ _,
    fun x => ⟨mem_listHotRTFiles now bucket p k hours, ?_⟩⟩
  · -- a file under both dates: its object is dated both
    obtain ⟨o₁, -, -, -, -, hd₁, rfl⟩ := mem_hotFilesOn _ _ _ h₁
    obtain ⟨o₂, -, -, -, -, hd₂, he⟩ := mem_hotFilesOn _ _ _ h₂
    rw [← hd₁, ← hd₂, show o₂.key = o₁.key from congrArg HotFile.key he]
  · rintro ⟨o, ho, hp, hk, ht, rfl⟩
    rw [hperm.mem_iff, List.mem_append]
    rcases hdated o ho hp hk ht with hd' | hd'
    · exact .inl (mem_hotFilesOn_of_fit _ _ _ (hfit _) ho ht hp hk hd')
    · exact .inr (mem_hotFilesOn_of_fit _ _ _ (hfit _) ho ht hp hk hd')

/-- A bucket at noon UTC on 5 November 2025: trip-update snapshots at 6:00 on 5 November, at
16:00 and at 5:00 on 4 November (Montreal time), and a vehicle-position snapshot at 6:00 on
5 November. -/
def nov5Bucket : List R2Object :=
  [tripSnapshotAt 1762340400000, tripSnapshotAt 1762290000000, tripSnapshotAt 1762250400000,
    ⟨rtPath "stm" "gtfsrt_vehicle_positions" 1762340400000, [], 1762340400000⟩]

/-- At noon UTC on 5 November 2025 the window spans 4 and 5 November from 7:00 on the 4th: the
listing holds the two trip-update snapshots since then, under both dates, once each. -/
theorem listHotRTFiles_exact_nov5 :
    (nov5Bucket.map (·.key)).Nodup ∧ PagesFit nov5Bucket "stm" "gtfsrt_trip_updates" ∧
      fmtYMDMontreal (getHoursAgo 1762344000000 24) ≠ fmtYMDMontreal 1762344000000 ∧
      (∀ o ∈ nov5Bucket, o.key.provider = "stm" → o.key.kind = "gtfsrt_trip_updates" →
        getHoursAgo 1762344000000 24 ≤ o.uploaded →
        o.key.date = fmtYMDMontreal (getHoursAgo 1762344000000 24) ∨
          o.key.date = fmtYMDMontreal 1762344000000) ∧
      (listHotRTFiles 1762344000000 nov5Bucket "stm" "gtfsrt_trip_updates" 24).Nodup ∧
      (listHotRTFiles 1762344000000 nov5Bucket "stm" "gtfsrt_trip_updates" 24).Pairwise
        (fun a b => newerFirst a b) ∧
      ∀ x, x ∈ listHotRTFiles 1762344000000 nov5Bucket "stm" "gtfsrt_trip_updates" 24 ↔
        ∃ o ∈ nov5Bucket, o.key.provider = "stm" ∧ o.key.kind = "gtfsrt_trip_updates" ∧
          getHoursAgo 1762344000000 24 ≤ o.uploaded ∧ o.file = x :=
  have h₁ : (nov5Bucket.map (·.key)).Nodup := by decide
  have h₂ : PagesFit nov5Bucket "stm" "gtfsrt_trip_updates" := .of_length (by decide) _ _
  have h₃ : fmtYMDMontreal (getHoursAgo 1762344000000 24) ≠ fmtYMDMontreal 1762344000000 := by
    decide
  have h₄ : ∀ o ∈ nov5Bucket, o.key.provider = "stm" → o.key.kind = "gtfsrt_trip_updates" →
      getHoursAgo 1762344000000 24 ≤ o.uploaded →
      o.key.date = fmtYMDMontreal (getHoursAgo 1762344000000 24) ∨
        o.key.date = fmtYMDMontreal 1762344000000 := by decide
  ⟨h₁, h₂, h₃, h₄, listHotRTFiles_exact _ _ _ _ _ h₁ h₂ h₃ h₄⟩

end Listing

/-! ### The changes of offset -/

/-- **Both changes of offset break the status.**  At 23:30 on 2 November 2025, the last hour of
the 25-hour day, the one snapshot of the window (7:00 that day) is listed twice and counted as
two.  At 0:30 on 10 March 2025, just after the 23-hour day, the one snapshot of the window (noon
on 9 March) is not listed at all. -/
theorem handleStatus_dst :
    (handleStatus 1762144200000 [tripSnapshotAt 1762084800000]).1.fileCount = 2 ∧
      (handleStatus 1741581000000 [tripSnapshotAt 1741536000000]).1.fileCount = 0 := by
  simp only [handleStatus, HotSummary.of, (listHotRTFiles_perm _ _ _ _ _).length_eq]
  decide

end Transit
