import Transit.Wire.Encode

/-!
# The ingestion worker's envelope reader

`parseFeedMeta` walks the top level of a `FeedMessage` once: it counts the entity fields
(number `2`, wire type `2`) and reads the header (number `1`) with `parseHeaderTimestamp`,
keeping a timestamp only when the header had one, so that across repeated headers the last
timestamp wins.  `saveRT` stores what it returns as `entity_count` and `feed_ts`.

On the bytes of a standard encoder the reader is exact, whatever other fields are interleaved
at either level.

## Main definitions

* `parseFeedMeta` — the reader, with `FeedMeta` for what it returns.
* `EnvelopeField`, `encodeEnvelope` — a feed's top level as an encoder writes it: header
  submessages with their own fields, and any other fields.
* `entityCount`, `lastHeaderTs` — what the envelope holds: its entity fields, and the last
  field-3 varint of any header.

## Main results

* `parseHeaderTimestamp_encodeFields` — a header reads back as its last timestamp.
* `parseFeedMeta_encodeEnvelope` — **`parseFeedMeta` returns the entity count and the last
  header timestamp of every encoded envelope.**
-/

namespace Transit

/-! ### The reader -/

/-- What `parseFeedMeta` returns. -/
structure FeedMeta where
  entityCount : ℕ
  headerTsSec : Option Num
  deriving DecidableEq, Repr

/-- The body of `parseFeedMeta`'s loop: a length-delimited field `1` is the header, one
numbered `2` an entity; every other field is skipped. -/
def feedMetaBody (u8 : ArrayBuffer) : FieldBody FeedMeta := fun fuel fieldNo wireType pos m =>
  if wireType = 2 then
    let r := readVarint u8 pos
    let subEnd := r.next + r.value
    if fieldNo = 1 then
      (parseHeaderTimestamp fuel u8 r.next subEnd).map fun ts =>
        (subEnd, match ts with
          | some t => { m with headerTsSec := some t }
          | none => m)
    else if fieldNo = 2 then .ret (subEnd, { m with entityCount := m.entityCount + 1 })
    else .ret (subEnd, m)
  else .ret (skipField u8 pos wireType, m)

/-- `parseFeedMeta(ab)`: the top-level loop over the whole buffer. -/
def parseFeedMeta (fuel : ℕ) (ab : ArrayBuffer) : Outcome FeedMeta :=
  fieldLoop ab ab.length (feedMetaBody ab) fuel (.fin 0) ⟨0, none⟩

theorem feedMetaBody_mono (u8 : ArrayBuffer) : BodyMono (feedMetaBody u8) := by
  intro fno wt pos m
  simp only [feedMetaBody]
  split_ifs
  · exact (parseHeaderTimestamp_mono u8 _ _).map _
  all_goals exact FuelMono.const _

theorem parseFeedMeta_mono (ab : ArrayBuffer) : FuelMono fun n => parseFeedMeta n ab :=
  fieldLoop_mono ab _ _ (feedMetaBody_mono ab) _ _

theorem feedMetaBody_total (u8 : ArrayBuffer) : BodyTotal (feedMetaBody u8) := by
  intro n fno wt pos m e
  simp only [feedMetaBody]
  split_ifs
  · cases h : parseHeaderTimestamp n u8 (readVarint u8 pos).next
        ((readVarint u8 pos).next + (readVarint u8 pos).value) with
    | ret ts => exact Outcome.noConfusion
    | error e' => exact absurd h (fieldLoop_ne_error u8 _ _ (headerTimestampBody_total u8) _ _ _ e')
    | outOfFuel => exact Outcome.noConfusion
  all_goals exact Outcome.noConfusion

/-- `parseFeedMeta` has no error path: on every buffer it returns or runs on. -/
theorem parseFeedMeta_ne_error (n : ℕ) (ab : ArrayBuffer) (e : JsError) :
    parseFeedMeta n ab ≠ .error e :=
  fieldLoop_ne_error ab _ _ (feedMetaBody_total ab) n _ _ e

/-! ### Headers -/

/-- The timestamp a header field carries: a varint in field `3`. -/
def Field.timestamp? : Field → Option ℕ
  | .varint 3 v => some v
  | _ => none

/-- The timestamp of a header: the last one its fields carry. -/
def headerTs (hs : List Field) : Option ℕ := (hs.filterMap Field.timestamp?).getLast?

/-- Overwriting with every value found keeps the last one. -/
theorem foldl_or_eq_getLast? {β γ : Type} (g : β → Option γ) :
    ∀ (xs : List β) (init : Option γ),
      xs.foldl (fun o x => (g x).or o) init = (xs.filterMap g).getLast?.or init
  | [], init => by simp
  | x :: xs, init => by
    rw [List.foldl_cons, foldl_or_eq_getLast? g xs]
    cases hx : g x with
    | none => simp [List.filterMap_cons, hx]
    | some a =>
      simp only [List.filterMap_cons, hx, List.getLast?_cons, Option.or_some]
      cases (xs.filterMap g).getLast? <;> rfl

theorem headerTimestampBody_spec (u8 : ArrayBuffer) :
    BodySpec u8 (headerTimestampBody u8) id Field.Valid
      (fun f ts => (f.timestamp?.map .fin).or ts) 0 := by
  intro f p rest ts fuel hf _ h
  simp only [id] at h ⊢
  have hskip := skipField_of_drop h hf
  cases f with
  | varint n v =>
    by_cases hn : n = 3
    · subst hn
      have hp := drop_payload h
      simp only [Field.payload] at hp
      simp [headerTimestampBody, Field.wireType, hf.fieldNo_key (m := 3) (by norm_num) (by norm_num),
        Field.num, readVarint_of_drop hp hf.2.2, Field.timestamp?, encodeField, Field.payload,
        Nat.add_assoc]
    · have hts : (Field.varint n v).timestamp? = none := by simp [Field.timestamp?, hn]
      have hn' : (n : ℤ) ≠ 3 := by exact_mod_cast hn
      simp only [Field.wireType] at hskip
      simp [headerTimestampBody, hf.fieldNo_key (m := 3) (by norm_num) (by norm_num), Field.num,
        hn', hts, hskip, Field.wireType]
  | i64 | len | i32 =>
    simp only [Field.wireType] at hskip
    simp [headerTimestampBody, Field.wireType, hskip, Field.timestamp?]

/-- A header laid out at `p` reads back as its last timestamp. -/
theorem parseHeaderTimestamp_encodeFields {u8 : ArrayBuffer} {p : ℕ} {hs : List Field}
    {rest : List UInt8} (hv : ∀ h ∈ hs, h.Valid) (hdrop : u8.data.drop p = encodeFields hs ++ rest)
    {fuel : ℕ} (hfuel : hs.length < fuel) :
    parseHeaderTimestamp fuel u8 (.fin p) (.fin (p + (encodeFields hs).length)) =
      .ret ((headerTs hs).map .fin) := by
  have := fieldLoop_encodeFields u8 (.fin (p + (encodeFields hs).length)) _ id Field.Valid _ 0
    (fun _ h => h) (headerTimestampBody_spec u8) hs p rest none fuel hv (by simpa using hdrop)
    (by simp) (by omega)
  rw [parseHeaderTimestamp, this, foldl_or_eq_getLast?, headerTs, Option.or_none,
    ← List.getLast?_map, List.map_filterMap]

/-! ### Envelopes -/

/-- A top-level field of a feed: a header submessage (field `1`) with its own fields, or any
other field. -/
inductive EnvelopeField where
  | header (hs : List Field)
  | other (f : Field)

namespace EnvelopeField

/-- The field an encoder writes. -/
def toField : EnvelopeField → Field
  | header hs => .len 1 (encodeFields hs)
  | other f => f

/-- Every field valid, and a length-delimited field `1` always a header. -/
def Valid : EnvelopeField → Prop
  | header hs => ∀ h ∈ hs, h.Valid
  | other f => f.Valid ∧ ¬ (f.num = 1 ∧ f.wireType = 2)

/-- An entity: a length-delimited field `2`. -/
def isEntity : EnvelopeField → Bool
  | header _ => false
  | other f => f.num = 2 ∧ f.wireType = 2

/-- The timestamps a top-level field carries. -/
def timestamps : EnvelopeField → List ℕ
  | header hs => hs.filterMap Field.timestamp?
  | other _ => []

/-- How many fields a header nests, which bounds the fuel its loop needs. -/
def depth : EnvelopeField → ℕ
  | header hs => hs.length
  | other _ => 0

instance : DecidablePred Valid
  | header hs => inferInstanceAs (Decidable (∀ h ∈ hs, h.Valid))
  | other f => inferInstanceAs (Decidable (f.Valid ∧ ¬ (f.num = 1 ∧ f.wireType = 2)))

theorem Valid.toField {e : EnvelopeField} (he : e.Valid) : e.toField.Valid := by
  cases e with
  | header => exact ⟨by norm_num, by norm_num⟩
  | other => exact he.1

end EnvelopeField

/-- The bytes of an envelope. -/
def encodeEnvelope (es : List EnvelopeField) : List UInt8 :=
  encodeFields (es.map EnvelopeField.toField)

/-- The number of entity fields. -/
def entityCount (es : List EnvelopeField) : ℕ := es.countP EnvelopeField.isEntity

/-- The last field-3 varint of any header, in stream order. -/
def lastHeaderTs (es : List EnvelopeField) : Option ℕ :=
  (es.flatMap EnvelopeField.timestamps).getLast?

/-- What one top-level field does to the result. -/
def metaStep : EnvelopeField → FeedMeta → FeedMeta
  | .header hs, m => ⟨m.entityCount, ((headerTs hs).map .fin).or m.headerTsSec⟩
  | .other f, m => if f.num = 2 ∧ f.wireType = 2 then ⟨m.entityCount + 1, m.headerTsSec⟩ else m

theorem feedMetaBody_spec (u8 : ArrayBuffer) (k : ℕ) :
    BodySpec u8 (feedMetaBody u8) EnvelopeField.toField
      (fun e => e.Valid ∧ e.depth < k) metaStep k := by
  rintro e p rest m fuel ⟨he, hk⟩ hfuel h
  have hf := he.toField
  cases e with
  | header hs =>
    have hdrop := drop_len_bytes h
    simp only [EnvelopeField.toField] at h hdrop hf ⊢
    have e1 : (Num.fin (Field.len 1 (encodeFields hs)).key).fieldNo = 1 :=
      (hf.fieldNo_key (m := 1) (by norm_num) (by norm_num)).mpr (by simp [Field.num])
    simp only [feedMetaBody, Field.wireType, if_true, readVarint_len h, len_end h, e1]
    rw [parseHeaderTimestamp_encodeFields he hdrop (by simp [EnvelopeField.depth] at hk; omega),
      len_end_eq]
    cases hts : headerTs hs <;> simp [metaStep, hts]
  | other f =>
    simp only [EnvelopeField.toField] at h hf ⊢
    simp only [EnvelopeField.Valid] at he
    cases f with
    | len n b =>
      have e1 : ¬ (Num.fin (Field.len n b).key).fieldNo = 1 := by
        rw [hf.fieldNo_key (by norm_num) (by norm_num)]
        simp only [Field.num]
        have := he.2; simp only [Field.num, Field.wireType, and_true] at this; omega
      have e2 : (Num.fin (Field.len n b).key).fieldNo = 2 ↔ n = 2 := by
        rw [hf.fieldNo_key (by norm_num) (by norm_num)]
        simp only [Field.num]; omega
      simp only [feedMetaBody, Field.wireType, if_true, readVarint_len h, len_end h, len_end_eq,
        e1, e2, if_false, metaStep, Field.num, and_true]
      split_ifs <;> rfl
    | _ =>
      have hs := skipField_of_drop h hf
      simp only [Field.wireType] at hs
      simp [feedMetaBody, Field.wireType, hs, metaStep]

theorem foldl_metaStep (m : FeedMeta) (es : List EnvelopeField) :
    es.foldl (fun o e => metaStep e o) m =
      ⟨m.entityCount + entityCount es, ((lastHeaderTs es).map .fin).or m.headerTsSec⟩ := by
  induction es generalizing m with
  | nil => simp [entityCount, lastHeaderTs]
  | cons e es ih =>
    rw [List.foldl_cons, ih]
    cases e with
    | header hs =>
      simp only [metaStep, entityCount, lastHeaderTs, List.countP_cons, List.flatMap_cons,
        EnvelopeField.isEntity, EnvelopeField.timestamps, List.getLast?_append, headerTs]
      cases (es.flatMap EnvelopeField.timestamps).getLast? <;>
        cases (hs.filterMap Field.timestamp?).getLast? <;> simp
    | other f =>
      by_cases hf : f.num = 2 ∧ f.wireType = 2
      · simp only [metaStep, hf, and_self, if_true, entityCount, List.countP_cons,
          EnvelopeField.isEntity, decide_true_eq_true, lastHeaderTs, List.flatMap_cons,
          EnvelopeField.timestamps, List.nil_append]
        congr 1; omega
      · simp [metaStep, hf, entityCount, EnvelopeField.isEntity, lastHeaderTs,
          EnvelopeField.timestamps]

/-- **`parseFeedMeta` returns the entity count and the last header timestamp of every
encoded envelope**, whatever fields are interleaved at the top level and inside the headers. -/
theorem parseFeedMeta_encodeEnvelope (es : List EnvelopeField) (hv : ∀ e ∈ es, e.Valid)
    (ab : ArrayBuffer) (hab : ab.data = encodeEnvelope es) :
    Returns (parseFeedMeta · ab) ⟨entityCount es, (lastHeaderTs es).map .fin⟩ := by
  let k := (es.map EnvelopeField.depth).sum + 1
  refine ⟨es.length + k + 1, fun fuel hfuel => ?_⟩
  have hrun := fieldLoop_encodeFields ab ab.length (feedMetaBody ab) EnvelopeField.toField
    (fun e => e.Valid ∧ e.depth < k) metaStep k (fun _ h => h.1.toField) (feedMetaBody_spec ab k)
    es 0 [] ⟨0, none⟩ fuel
    (fun e he => ⟨hv e he, Nat.lt_succ_of_le (List.le_sum_of_mem (List.mem_map_of_mem _ he))⟩)
    (by simp [hab, encodeEnvelope]) (by simp [ArrayBuffer.length, hab, encodeEnvelope])
    (by omega)
  show parseFeedMeta fuel ab = _
  rw [parseFeedMeta, hrun, foldl_metaStep]
  simp

/-- An envelope with an unknown `I64` field before the header, a header holding a timestamp
and an unknown `I32` field, two entities and an unknown varint between them. -/
def sampleEnvelope : List EnvelopeField :=
  [.other (.i64 7 5), .header [.varint 3 1700000000, .i32 9 0], .other (.len 2 [1, 2]),
    .other (.varint 5 7), .other (.len 2 [])]

/-- Its bytes. -/
def sampleFeed : ArrayBuffer :=
  ⟨[57, 5, 0, 0, 0, 0, 0, 0, 0, 10, 11, 24, 128, 226, 207, 170, 6, 77, 0, 0, 0, 0, 18, 2, 1, 2,
    40, 7, 18, 0], by decide⟩

theorem parseFeedMeta_sampleFeed :
    (∀ e ∈ sampleEnvelope, e.Valid) ∧ sampleFeed.data = encodeEnvelope sampleEnvelope ∧
      Returns (parseFeedMeta · sampleFeed) ⟨2, some (.fin 1700000000)⟩ := by
  have hv : ∀ e ∈ sampleEnvelope, e.Valid := by decide
  have hab : sampleFeed.data = encodeEnvelope sampleEnvelope := by
    simp [sampleFeed, encodeEnvelope, sampleEnvelope, EnvelopeField.toField, encodeField,
      encodeVarint, Field.key, Field.num, Field.wireType, Field.payload, Field.littleEndian,
      List.range_succ]
    decide
  exact ⟨hv, hab, parseFeedMeta_encodeEnvelope sampleEnvelope hv sampleFeed hab⟩

end Transit
