import Transit.Api.Termination
import Transit.Api.Encoded

/-!
# One bad entity in a feed

`parseFeedMessage` has no error handling of its own: an entity is parsed in line, and whatever
its parse does, the top-level loop does.  When the parse of a malformed entity returns, the
loop resumes at the end the entity's length prefix gives, so every other field decodes as if
the entity were not there, and the bad entity's decoding takes its place in the list.  When it
does not return, nothing is decoded: a trip update whose length points past `2 ^ 53` sends its
loop past the buffer, where it never ends.

The well-formed fields around the bad entity are headers and encoded entities without a
position, whose decoding `parseEntity_decodesTo` gives wherever they sit.

## Main definitions

* `TopField`, `encodeTop` — the top-level fields of a well-formed feed.
* `lastHeader`, `entities` — the header and the entities they decode to.

## Main results

* `feedMessageBody_spec` — what the top-level body does with a well-formed field.
* `fieldLoop_badEntity` — from an entity whose parse returns, the loop goes on to the end.
* `parseFeedMessage_isolates` — a bad entity whose parse returns leaves the others alone.
* `parseFeedMessage_badEntityFeed` — one whose parse never returns takes the feed with it.
-/

namespace Transit

/-- A top-level field of a feed as an encoder writes it: a header (field `1`) or an entity
(field `2`) by its fields, or any other field. -/
inductive TopField where
  | header (fs : List Field)
  | entity (xs : List EntityField)
  | other (f : Field)

namespace TopField

/-- The field an encoder writes. -/
def toField : TopField → Field
  | header fs => .len 1 (encodeFields fs)
  | entity xs => .len 2 (encodeFields (xs.map EntityField.toField))
  | other f => f

/-- Well formed: every field valid, and a `LEN` field `1` or `2` always a header or an
entity. -/
def Ok : TopField → Prop
  | header fs => ∀ f ∈ fs, f.Valid
  | entity xs => ∀ x ∈ xs, x.Ok
  | other f => f.Valid ∧ ¬ (f.wireType = 2 ∧ (f.num = 1 ∨ f.num = 2))

instance : DecidablePred Ok
  | header fs => inferInstanceAs (Decidable (∀ f ∈ fs, f.Valid))
  | entity xs => inferInstanceAs (Decidable (∀ x ∈ xs, x.Ok))
  | other f => inferInstanceAs (Decidable (f.Valid ∧ ¬ (f.wireType = 2 ∧ (f.num = 1 ∨ f.num = 2))))

/-- The fuel the loop of a nested message needs. -/
def fuel : TopField → ℕ
  | header fs => fs.length + 1
  | entity xs => xs.length + (xs.map EntityField.fuel).sum + 1
  | other _ => 0

/-- What the decoder does with the field: a header's timestamp replaces the one held, an
entity is decoded and appended. -/
def step : TopField → FeedMessage → FeedMessage
  | header fs, feed => { feed with header := ⟨(headerTs fs).map .fin⟩ }
  | entity xs, feed => { feed with entity := feed.entity ++ [EntityField.decode xs] }
  | other _, feed => feed

/-- What the field does to the header. -/
def headerStep : TopField → FeedHeader → FeedHeader
  | header fs, _ => ⟨(headerTs fs).map .fin⟩
  | _, h => h

/-- The entity a field adds. -/
def entity? : TopField → Option FeedEntity
  | entity xs => some (EntityField.decode xs)
  | _ => none

theorem step_eq (x : TopField) (feed : FeedMessage) :
    x.step feed = ⟨x.headerStep feed.header, feed.entity ++ x.entity?.toList⟩ := by
  cases x <;> simp [step, headerStep, entity?]

theorem Ok.toField {x : TopField} (hx : x.Ok) : x.toField.Valid := by
  cases x with
  | header | entity => exact ⟨by norm_num, by norm_num⟩
  | other => exact hx.1

end TopField

/-- The bytes of top-level fields. -/
def encodeTop (fs : List TopField) : List UInt8 := encodeFields (fs.map TopField.toField)

/-- The header that top-level fields leave: the last header's timestamp. -/
def lastHeader (fs : List TopField) : FeedHeader := fs.foldl (fun h x => x.headerStep h) {}

/-- The entities of top-level fields, in order. -/
def entities (fs : List TopField) : List FeedEntity := fs.filterMap TopField.entity?

theorem foldl_step (fs : List TopField) (feed : FeedMessage) :
    fs.foldl (fun o x => x.step o) feed =
      ⟨fs.foldl (fun h x => x.headerStep h) feed.header, feed.entity ++ entities fs⟩ := by
  induction fs generalizing feed with
  | nil => simp [entities]
  | cons x fs ih =>
    rw [List.foldl_cons, ih, TopField.step_eq]
    cases x <;> simp [entities, TopField.entity?, TopField.headerStep]

/-- The top-level body on an entity field, whatever its payload: when the parse of the payload
returns, it lands at the field's end and appends the entity. -/
theorem feedMessageBody_entity {u8 : ArrayBuffer} {p fuel : ℕ} {b rest : List UInt8}
    {feed : FeedMessage} {ent : FeedEntity} (h : u8.data.drop p = encodeField (.len 2 b) ++ rest)
    (hent : parseEntity fuel u8
      (.fin (p + (encodeVarint (Field.len 2 b).key).length + (encodeVarint b.length).length))
      (.fin (p + (encodeVarint (Field.len 2 b).key).length + (encodeVarint b.length).length +
        b.length)) = .ret ent) :
    feedMessageBody u8 fuel (Num.fin (Field.len 2 b).key).fieldNo 2
        (.fin (p + (encodeVarint (Field.len 2 b).key).length)) feed =
      .ret (.fin (p + (encodeField (.len 2 b)).length),
        { feed with entity := feed.entity ++ [ent] }) := by
  have e2 : (Num.fin (Field.len 2 b).key).fieldNo = 2 :=
    ((show (Field.len 2 b).Valid from ⟨by norm_num, by norm_num⟩).fieldNo_key (m := 2)
      (by norm_num) (by norm_num)).mpr (by simp [Field.num])
  simp only [feedMessageBody, lenField, if_true, readVarint_len h, len_end h, e2,
    if_neg (show (2 : ℤ) ≠ 1 by norm_num), hent, Outcome.ret_map]
  rw [len_end_eq]

/-- **The top-level body on a well-formed field**: it lands at the field's end and does what
the field says. -/
theorem feedMessageBody_spec (u8 : ArrayBuffer) (k : ℕ) :
    BodySpec u8 (feedMessageBody u8) TopField.toField (fun x => x.Ok ∧ x.fuel ≤ k) TopField.step
      k := by
  rintro x p rest feed fuel ⟨hx, hk⟩ hfuel h
  cases x with
  | header fs =>
    simp only [TopField.toField] at h ⊢
    have hts : parseHeaderTimestamp fuel u8 _ _ = _ := parseHeaderTimestamp_encodeFields hx
      (drop_len_bytes h) (by simp only [TopField.fuel] at hk; omega)
    simp [feedMessageBody, Field.wireType, lenField_of_drop h, Field.fieldNo_key_of_lt,
      Field.num, hts, TopField.step]
  | entity xs =>
    simp only [TopField.toField] at h ⊢
    have hent := parseEntity_decodesTo hx u8 _ rest fuel
      (by simp only [TopField.fuel] at hk; omega) (drop_len_bytes h)
    simp [feedMessageBody, Field.wireType, lenField_of_drop h, Field.fieldNo_key_of_lt,
      Field.num, hent, TopField.step]
  | other f =>
    simp only [TopField.toField] at h ⊢
    obtain ⟨hf, hnest⟩ := hx
    cases f with
    | len n b =>
      simp only [Field.wireType, Field.num, true_and, not_or] at hnest
      simp only [feedMessageBody, Field.wireType, if_true, lenField_of_drop h, TopField.step,
        hf.fieldNo_eq (m := 1) (by norm_num) (by norm_num),
        hf.fieldNo_eq (m := 2) (by norm_num) (by norm_num), Field.num, Int.toNat_one,
        Int.reduceToNat, hnest.1, hnest.2, if_false, Outcome.ret_map]
    | _ => exact skip_of_drop h hf feed

/-- The top-level loop from an entity field whose payload's parse returns: the loop appends the
entity and goes on through the well-formed fields after it to the end of the buffer. -/
theorem fieldLoop_badEntity {u8 : ArrayBuffer} {k q n₀ fuel : ℕ} {bad : List UInt8}
    {post : List TopField} {feed : FeedMessage} {ent : FeedEntity}
    (hok : ∀ x ∈ post, x.Ok ∧ x.fuel ≤ k)
    (hat : u8.data.drop q = encodeField (.len 2 bad) ++ encodeFields (post.map TopField.toField))
    (hent : ∀ f ≥ n₀, parseEntity f u8 (.fin (q + 1 + (encodeVarint bad.length).length))
      (.fin (q + 1 + (encodeVarint bad.length).length + bad.length)) = .ret ent)
    (hfuel : post.length + k + n₀ + 1 < fuel) :
    fieldLoop u8 u8.length (feedMessageBody u8) fuel (.fin q) feed =
      .ret (post.foldl (fun o x => x.step o) { feed with entity := feed.entity ++ [ent] }) := by
  obtain ⟨f, rfl⟩ : ∃ f, fuel = f + 1 := ⟨fuel - 1, by omega⟩
  have hkey : (encodeVarint (Field.len 2 bad).key).length = 1 := by
    rw [encodeVarint_of_lt (by simp [Field.key, Field.num, Field.wireType])]; rfl
  have hpos : 0 < (encodeField (.len 2 bad)).length := List.length_pos.2 (encodeField_ne_nil _)
  have hlen : u8.data.length = q + (encodeField (.len 2 bad)).length +
      (encodeFields (post.map TopField.toField)).length := by
    have hd := congrArg List.length hat
    simp only [List.length_drop, List.length_append] at hd
    omega
  rw [fieldLoop_succ, if_pos (show Num.fin q < u8.length from
      show _ < u8.data.length by omega),
    readVarint_key hat ⟨by norm_num, by norm_num⟩, Field.key_wireType, Field.wireType,
    feedMessageBody_entity hat (by rw [hkey]; exact hent f (by omega)), Outcome.ret_bind]
  exact fieldLoop_encodeFields u8 _ _ _ _ _ k (fun _ hx => hx.1.toField) (feedMessageBody_spec u8 k)
    post _ [] _ f hok (by rw [List.append_nil]; exact ArrayBuffer.drop_add_of_drop hat)
    (by simp only [ArrayBuffer.length, hlen]) (by omega)

/-- The fields before the bad entity: a header with the timestamp `5`, and the entity
`{ id: "1", trip_update: { trip: { trip_id: "t" } } }`. -/
def isolatedPre : List TopField :=
  [.header [.varint 3 5],
    .entity [.plain (.len 1 [0x31]), .tripUpdate [.trip [.len 1 [0x74]]]]]

/-- The fields after it: the entity `{ id: "2" }`. -/
def isolatedPost : List TopField := [.entity [.plain (.len 1 [0x32])]]

/-- The bad entity's payload: a trip update whose two bytes `0xff 0xff` start a key that runs
on into the next entity. -/
def badPayload : List UInt8 := [0x1a, 0x02, 0xff, 0xff]

/-- The feed with the bad entity between the good ones. -/
def isolatedFeed : ArrayBuffer :=
  ⟨[0x0a, 0x02, 0x18, 0x05,
    0x12, 0x0a, 0x0a, 0x01, 0x31, 0x1a, 0x05, 0x0a, 0x03, 0x0a, 0x01, 0x74,
    0x12, 0x04, 0x1a, 0x02, 0xff, 0xff,
    0x12, 0x03, 0x0a, 0x01, 0x32], by decide⟩

/-- The same feed without the bad entity. -/
def isolatedFeedWithout : ArrayBuffer :=
  ⟨[0x0a, 0x02, 0x18, 0x05,
    0x12, 0x0a, 0x0a, 0x01, 0x31, 0x1a, 0x05, 0x0a, 0x03, 0x0a, 0x01, 0x74,
    0x12, 0x03, 0x0a, 0x01, 0x32], by decide⟩

theorem encodeTop_isolatedPre :
    encodeTop isolatedPre =
      [0x0a, 0x02, 0x18, 0x05, 0x12, 0x0a, 0x0a, 0x01, 0x31, 0x1a, 0x05, 0x0a, 0x03, 0x0a, 0x01, 0x74] := by
  simp [encodeTop, isolatedPre, TopField.toField, EntityField.toField, TripUpdateField.toField,
    encodeField, Field.key, Field.num, Field.wireType, Field.payload, encodeVarint_of_lt]

theorem encodeTop_isolatedPost : encodeTop isolatedPost = [0x12, 0x03, 0x0a, 0x01, 0x32] := by
  simp [encodeTop, isolatedPost, TopField.toField, EntityField.toField, encodeField, Field.key,
    Field.num, Field.wireType, Field.payload, encodeVarint_of_lt]

/-- Two entities: `{ id: "1" }`, then one whose trip update has the length `2 ^ 56`. -/
def badEntityFeed : ArrayBuffer :=
  ⟨[0x12, 0x03, 0x0a, 0x01, 0x31,
    0x12, 0x0a, 0x1a, 0x80, 0x80, 0x80, 0x80, 0x80, 0x80, 0x80, 0x80, 0x01], by decide⟩

/-- The first entity alone. -/
def goodEntityFeed : ArrayBuffer := ⟨[0x12, 0x03, 0x0a, 0x01, 0x31], by decide⟩

end Transit
