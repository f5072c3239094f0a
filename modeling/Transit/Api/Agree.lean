import Transit.Ingest.FeedMeta
import Transit.Api.Decode

/-!
# The two workers' readers side by side

The ingestion worker reads a feed with `parseFeedMeta`, and the API worker reads the same
bytes again with `parseFeedMessage`.  Their top-level loops are the same loop: the same keys,
the same cursor arithmetic, the same header parse.  They differ in what they keep.  The API
worker pushes one entity per entity field, where the ingestion worker counts one; and it
assigns the header timestamp unconditionally, where the ingestion worker keeps it only when
the header had one (`typeof ts === 'number'`).

So the API decoder simulates the ingestion reader step by step, on every buffer.  The entity
counts always agree, and a header timestamp the API reports is the one the ingestion worker
stored; but after a header without a timestamp the API reports none, while the ingestion
worker keeps the earlier one.

## Main definitions

* `MetaAgrees` — the relation the simulation keeps between the two loops' objects.

## Main results

* `feedMetaBody_of_feedMessageBody`, `fieldLoop_meta_of_message` — one step, then the whole
  loop, of the simulation.
* `parseFeedMeta_of_parseFeedMessage` — whenever `parseFeedMessage` returns, `parseFeedMeta`
  returns the same entity count and any header timestamp the API reports.
* `parseFeedMessage_twoHeaders` — two headers, the second without a timestamp: the two
  readers disagree.
-/

namespace Transit

/-- The API worker's feed and the ingestion worker's result agree so far: the same number of
entities, and a header timestamp the feed holds is the one the result holds. -/
def MetaAgrees (feed : FeedMessage) (m : FeedMeta) : Prop :=
  m.entityCount = feed.entity.length ∧ ∀ t, feed.header.timestamp = some t → m.headerTsSec = some t

theorem metaAgrees_init : MetaAgrees {} ⟨0, none⟩ := ⟨rfl, fun _ h => nomatch h⟩

/-- One iteration: whatever the API body returns, the ingestion body returns the same cursor
and an object that still agrees. -/
theorem feedMetaBody_of_feedMessageBody {u8 : ArrayBuffer} {fuel : ℕ} {fno : ℤ} {wt : ℕ}
    {pos pos' : Num} {feed feed' : FeedMessage} {m : FeedMeta}
    (h : feedMessageBody u8 fuel fno wt pos feed = .ret (pos', feed')) (hr : MetaAgrees feed m) :
    ∃ m', feedMetaBody u8 fuel fno wt pos m = .ret (pos', m') ∧ MetaAgrees feed' m' := by
  simp only [feedMessageBody, feedMetaBody, lenField] at h ⊢
  split_ifs at h ⊢ with hwt h1 h2
  · -- a header: both run the same header parse
    cases hp : parseHeaderTimestamp fuel u8 (readVarint u8 pos).next
        ((readVarint u8 pos).next + (readVarint u8 pos).value) with
    | ret ts =>
      simp only [hp, Outcome.ret_map, Outcome.ret.injEq, Prod.mk.injEq] at h ⊢
      obtain ⟨rfl, rfl⟩ := h
      refine ⟨_, ⟨rfl, rfl⟩, ?_⟩
      cases ts with
      | none => exact ⟨hr.1, fun _ h => nomatch h⟩
      | some t => exact ⟨hr.1, fun _ h => by cases h; rfl⟩
    | error e => simp [hp] at h
    | outOfFuel => simp [hp] at h
  · -- an entity: the API parses it, the ingestion worker counts it
    cases hp : parseEntity fuel u8 (readVarint u8 pos).next
        ((readVarint u8 pos).next + (readVarint u8 pos).value) with
    | ret ent =>
      simp only [hp, Outcome.ret_map, Outcome.ret.injEq, Prod.mk.injEq] at h ⊢
      obtain ⟨rfl, rfl⟩ := h
      exact ⟨_, ⟨rfl, rfl⟩, by simp [hr.1], hr.2⟩
    | error e => simp [hp] at h
    | outOfFuel => simp [hp] at h
  · simp only [Outcome.ret_map, Outcome.ret.injEq, Prod.mk.injEq] at h
    obtain ⟨rfl, rfl⟩ := h
    exact ⟨m, rfl, hr⟩
  · simp only [skip, Outcome.ret.injEq, Prod.mk.injEq] at h
    obtain ⟨rfl, rfl⟩ := h
    exact ⟨m, rfl, hr⟩

/-- The whole loop: at the same fuel, from the same cursor, if the API loop returns then so
does the ingestion loop, with an object that agrees. -/
theorem fieldLoop_meta_of_message (u8 : ArrayBuffer) (stop : Num) :
    ∀ (fuel : ℕ) (pos : Num) (feed feed' : FeedMessage) (m : FeedMeta),
      fieldLoop u8 stop (feedMessageBody u8) fuel pos feed = .ret feed' → MetaAgrees feed m →
      ∃ m', fieldLoop u8 stop (feedMetaBody u8) fuel pos m = .ret m' ∧ MetaAgrees feed' m'
  | 0, _, _, _, _, h, _ => nomatch h
  | fuel + 1, pos, feed, feed', m, h, hr => by
    rw [fieldLoop_succ] at h ⊢
    split_ifs at h ⊢
    · obtain ⟨⟨pos', feed₁⟩, hb, hrest⟩ := Outcome.bind_eq_ret.mp h
      obtain ⟨m₁, hm, hr₁⟩ := feedMetaBody_of_feedMessageBody hb hr
      rw [hm, Outcome.ret_bind]
      exact fieldLoop_meta_of_message u8 stop fuel pos' feed₁ feed' m₁ hrest hr₁
    · cases h
      exact ⟨m, rfl, hr⟩

/-- **Whenever `parseFeedMessage` returns, `parseFeedMeta` returns too**, with the same entity
count and, when the API reports a header timestamp, the same timestamp. -/
theorem parseFeedMeta_of_parseFeedMessage {ab : ArrayBuffer} {feed : FeedMessage}
    (h : Returns (parseFeedMessage · ab) feed) :
    ∃ m, Returns (parseFeedMeta · ab) m ∧ m.entityCount = feed.entity.length ∧
      ∀ t, feed.header.timestamp = some t → m.headerTsSec = some t := by
  obtain ⟨n, hn⟩ := h
  obtain ⟨m, hm, hr⟩ :=
    fieldLoop_meta_of_message ab ab.length n (.fin 0) {} feed ⟨0, none⟩ (hn n le_rfl) metaAgrees_init
  exact ⟨m, Returns.of_mono (parseFeedMeta_mono ab) hm, hr⟩

/-- A feed of a header with the timestamp `5` and one entity `"1"`. -/
def stampedFeed : ArrayBuffer := ⟨[0x0a, 0x02, 0x18, 0x05, 0x12, 0x03, 0x0a, 0x01, 0x31], by decide⟩

/-- The simulation at that feed: the ingestion worker counts its one entity and reads its
timestamp. -/
theorem parseFeedMeta_of_parseFeedMessage_stampedFeed :
    Returns (parseFeedMessage · stampedFeed)
        { header := ⟨some (.fin 5)⟩, entity := [{ id := some [0x31] }] } ∧
      ∃ m, Returns (parseFeedMeta · stampedFeed) m ∧ m.entityCount = 1 ∧
        ∀ t, some (Num.fin 5) = some t → m.headerTsSec = some t :=
  have h : Returns (parseFeedMessage · stampedFeed)
      { header := ⟨some (.fin 5)⟩, entity := [{ id := some [0x31] }] } :=
    Returns.of_mono (parseFeedMessage_mono _) (n := 4) (by decide)
  ⟨h, parseFeedMeta_of_parseFeedMessage h⟩

/-- A feed of two headers, the first with the timestamp `5`, the second empty. -/
def twoHeaders : ArrayBuffer := ⟨[0x0a, 0x02, 0x18, 0x05, 0x0a, 0x00], by decide⟩

/-- On it the API reports no header timestamp, where the ingestion worker stored `5`. -/
theorem parseFeedMessage_twoHeaders :
    Returns (parseFeedMessage · twoHeaders) { header := ⟨none⟩ } ∧
      Returns (parseFeedMeta · twoHeaders) ⟨0, some (.fin 5)⟩ :=
  ⟨Returns.of_mono (parseFeedMessage_mono twoHeaders) (n := 5) (by decide),
    Returns.of_mono (parseFeedMeta_mono twoHeaders) (n := 5) (by decide)⟩

end Transit
