import Transit.Ingest.Store

/-!
# Malformed buffers

The ingestion reader has no error path.  `readVarint` reads past the end of the buffer as zero
bytes, `skipField` moves the cursor past a payload whether or not it is there, and the loop
stops as soon as the cursor passes the end.  So `parseFeedMeta` never throws: on a truncated
buffer it returns counts and a timestamp like on any other, and `saveRT` stores the buffer.

## Main definitions

* `varintLength`, `framedN`, `Framed` — buffers made of complete top-level records.

## Main results

* `saveRT_stores_parsed` — `parseFeedMeta` never throws, and `saveRT` stores every new body
  whose parse returns.
* `truncatedFeed_stored` — a buffer cut inside its only record is counted and stored.
-/

namespace Transit

/-! ### Complete records -/

/-- The number of bytes of the varint at the head of `bs`, when its last byte is in `bs`. -/
def varintLength : List UInt8 → Option ℕ
  | [] => none
  | b :: bs => if b < 0x80 then some 1 else (varintLength bs).map (· + 1)

/-- Whether `bs` is at most `n` complete records: each a key varint, and then, by the key's
wire type, a varint, 8 bytes, a length varint and that many bytes, or 4 bytes. -/
def framedN : ℕ → List UInt8 → Bool
  | _, [] => true
  | 0, _ :: _ => false
  | n + 1, bs@(_ :: _) =>
    match varintLength bs with
    | none => false
    | some k =>
      let rest := bs.drop k
      match (varintLoop bs 0 0).1 % 8 with
      | 0 =>
        match varintLength rest with
        | some j => framedN n (rest.drop j)
        | none => false
      | 1 => 8 ≤ rest.length && framedN n (rest.drop 8)
      | 2 =>
        match varintLength rest with
        | some j =>
          j + (varintLoop rest 0 0).1 ≤ rest.length &&
            framedN n (rest.drop (j + (varintLoop rest 0 0).1))
        | none => false
      | 5 => 4 ≤ rest.length && framedN n (rest.drop 4)
      | _ => false

/-- A buffer that is a concatenation of complete top-level records. -/
def Framed (bs : List UInt8) : Prop := framedN bs.length bs = true

instance : DecidablePred Framed := fun bs => inferInstanceAs (Decidable (framedN _ bs = true))

/-! ### Nothing is rejected -/

/-- **`parseFeedMeta` rejects nothing**: it never throws, and `saveRT`, when D1 and R2 succeed,
writes the object and the row of every body with a new hash on which it returns. -/
theorem saveRT_stores_parsed (env : Env) (hs : StoreSucceeds env) (w : World)
    (pkey feedId kind : String) (ab : ArrayBuffer) :
    (∀ n e, parseFeedMeta n ab ≠ .error e) ∧
      (w.hasRaw (rawTable kind) pkey (env.sha256Hex ab.data) = false →
        ∀ m, parseFeedMeta env.budget ab = .ret m →
          ∃ w', saveRT pkey feedId kind ab env w =
              .ok (.saved (rtPath pkey kind (env.clock w.reads))) w' ∧
            ⟨rtPath pkey kind (env.clock w.reads), ab.data, env.clock w.reads⟩ ∈ w'.bucket ∧
            savedRow env pkey feedId kind ab m ∈ w'.raw) :=
  ⟨fun n e => parseFeedMeta_ne_error n ab e, fun h m hm =>
    ⟨_, saveRT_new hs h hm, by simp [savedWorld, putObject], by simp [savedWorld]⟩⟩

/-- A buffer cut inside its only record: an entity of length 5 with one byte. -/
def truncatedFeed : ArrayBuffer := ⟨[0x12, 0x05, 0x00], by decide⟩

/-- A run at 1:30 EDT on 2 November 2025 that fetches `truncatedFeed`. -/
def truncatedEnv : Env :=
  { fallBackEnv with respond := fun _ => ⟨200, "OK", truncatedFeed⟩ }

theorem saveRT_stores_parsed_truncated :
    StoreSucceeds truncatedEnv ∧ World.init.hasRaw (rawTable "gtfsrt_trip_updates") "stm"
        (truncatedEnv.sha256Hex truncatedFeed.data) = false ∧
      parseFeedMeta truncatedEnv.budget truncatedFeed = .ret ⟨1, none⟩ ∧
      ∃ w', saveRT "stm" "1" "gtfsrt_trip_updates" truncatedFeed truncatedEnv World.init =
          .ok (.saved (rtPath "stm" "gtfsrt_trip_updates" (truncatedEnv.clock 0))) w' ∧
        ⟨rtPath "stm" "gtfsrt_trip_updates" (truncatedEnv.clock 0), truncatedFeed.data,
          truncatedEnv.clock 0⟩ ∈ w'.bucket ∧
        savedRow truncatedEnv "stm" "1" "gtfsrt_trip_updates" truncatedFeed ⟨1, none⟩ ∈ w'.raw :=
  have hs : StoreSucceeds truncatedEnv := fun _ _ _ => rfl
  have hp : parseFeedMeta truncatedEnv.budget truncatedFeed = .ret ⟨1, none⟩ := by decide
  ⟨hs, rfl, hp, (saveRT_stores_parsed truncatedEnv hs World.init "stm" "1" "gtfsrt_trip_updates"
    truncatedFeed).2 rfl _ hp⟩

/-- **A truncated buffer is counted and stored**: the entity's length runs past the end, yet
`parseFeedMeta` returns one entity, and a run writes the buffer to R2 and its row. -/
theorem truncatedFeed_stored :
    ¬ Framed truncatedFeed.data ∧ Returns (parseFeedMeta · truncatedFeed) ⟨1, none⟩ ∧
      ⟨rtPath "stm" "gtfsrt_trip_updates" (truncatedEnv.clock 0), truncatedFeed.data,
          truncatedEnv.clock 0⟩ ∈ (runs truncatedEnv World.init [[stmTripUpdates]]).bucket ∧
      savedRow truncatedEnv "stm" "1" "gtfsrt_trip_updates" truncatedFeed ⟨1, none⟩ ∈
        (runs truncatedEnv World.init [[stmTripUpdates]]).raw := by
  have ha : AllSucceed truncatedEnv := fun _ _ => rfl
  have h₁ := runScheduled_saved ha (w := World.init) stmTripUpdates (by decide)
    (by decide) (by decide) (m := ⟨1, none⟩) (by decide)
  rw [runs_cons, runs_nil, h₁]
  exact ⟨by decide, Returns.of_mono (parseFeedMeta_mono truncatedFeed) (n := 4) (by decide),
    by decide, by decide⟩

end Transit
