import Transit.Wire.Reader

/-!
# What a standard protobuf encoder writes, and how the reader walks it

The decoders are specified against the bytes a standard protobuf encoder produces.  A field is
a key varint `num * 8 + wireType` followed by its payload: a varint (`VARINT`), eight bytes
(`I64`), a length varint and that many bytes (`LEN`, which also carries submessages), or four
bytes (`I32`).  A message is its fields, one after the other.

On such bytes the reader is exact: a varint below `2 ^ 53` reads back as itself, `skipField`
lands on the next key, and a message loop over a whole encoded message visits its fields in
order.  `fieldLoop_encodeFields` is that last fact for any loop body whose effect on a single
field is known, and every round trip of the development is an instance of it.

## Main definitions

* `encodeVarint` — the shortest varint of a number; `VarintEnc` — every varint of a number,
  redundant groups included.
* `RecordPayload` — the payload of a record of each wire type.
* `Field`, `encodeField`, `encodeFields` — fields and messages as an encoder writes them.
* `Field.Valid` — field numbers in `1 .. 2 ^ 29 - 1`, varint values below `2 ^ 53`.

## Main results

* `VarintEnc.varintLoop`, `readVarint_of_varintEnc` — a varint reads back.
* `readVarint_skipField_record` — at a record, `readVarint` reads its key and `skipField`
  lands at its end.
* `skipField_of_drop` — `skipField` steps over exactly one field.
* `fieldLoop_encodeFields` — **a message loop over an encoded message folds its body's
  effect over the fields.**
-/

namespace Transit

/-! ### Varints -/

/-- The shortest varint of `v`: seven bits a byte, low bits first, `0x80` on every byte but
the last. -/
def encodeVarint (v : ℕ) : List UInt8 :=
  if v < 128 then [UInt8.ofNat v] else UInt8.ofNat (v % 128 + 128) :: encodeVarint (v / 128)
termination_by v
decreasing_by omega

theorem encodeVarint_of_lt {v : ℕ} (h : v < 128) : encodeVarint v = [UInt8.ofNat v] := by
  rw [encodeVarint, if_pos h]

theorem encodeVarint_ne_nil (v : ℕ) : encodeVarint v ≠ [] := by
  rw [encodeVarint]; split <;> simp

/-- OR-ing a group in above the bits read so far adds it. -/
theorem or_shiftLeft_of_lt {x s : ℕ} (hx : x < 2 ^ s) (c : ℕ) :
    x ||| (c <<< s) = x + c * 2 ^ s := by
  rw [Nat.shiftLeft_eq, Nat.or_comm, Nat.mul_comm, ← Nat.mul_add_lt_is_or hx, Nat.add_comm]

theorem and_0x7f (b : ℕ) : b &&& 0x7f = b % 128 :=
  Nat.and_pow_two_sub_one_eq_mod b 7

theorem and_0x80_eq_zero {b : ℕ} : b &&& 0x80 = 0 ↔ b / 128 % 2 = 0 := by
  rw [show (0x80 : ℕ) = 2 ^ 7 from rfl, Nat.and_two_pow, Nat.testBit_to_div_mod]
  by_cases h : b / 2 ^ 7 % 2 = 1 <;> simp [h]

theorem varintLoop_cons (b : UInt8) (bs : List UInt8) (s x : ℕ) :
    varintLoop (b :: bs) s x =
      if b.toNat &&& 0x80 = 0 then (x ||| ((b.toNat &&& 0x7f) <<< s), 1)
      else ((varintLoop bs (s + 7) (x ||| ((b.toNat &&& 0x7f) <<< s))).1,
        (varintLoop bs (s + 7) (x ||| ((b.toNat &&& 0x7f) <<< s))).2 + 1) := rfl

/-- The bytes of a varint of value `v` as any encoder may write it: groups of seven bits, low
first, `0x80` on every byte but the last.  Unlike `encodeVarint`, redundant groups (`0x80`
bytes before a last `0x00`) are allowed. -/
inductive VarintEnc : List UInt8 → ℕ → Prop
  /-- The last byte, without `0x80`. -/
  | last (b : UInt8) (hb : b.toNat < 128) : VarintEnc [b] b.toNat
  /-- A byte with `0x80`: its low seven bits, below the value of the rest. -/
  | cont (b : UInt8) {bs : List UInt8} {v : ℕ} (hb : 128 ≤ b.toNat) (h : VarintEnc bs v) :
      VarintEnc (b :: bs) (b.toNat % 128 + 128 * v)

theorem VarintEnc.ne_nil {bs : List UInt8} {v : ℕ} (h : VarintEnc bs v) : bs ≠ [] := by
  cases h <;> simp

/-- **The loop of `readVarint` on a varint accumulates its value above the bits it already
holds, and consumes exactly its bytes**, whatever follows them. -/
theorem VarintEnc.varintLoop {bs : List UInt8} {v : ℕ} (h : VarintEnc bs v) (rest : List UInt8) :
    ∀ s x, x < 2 ^ s → Transit.varintLoop (bs ++ rest) s x = (x + v * 2 ^ s, bs.length) := by
  induction h with
  | last b hb =>
    intro s x hx
    simp only [List.singleton_append, varintLoop_cons, and_0x80_eq_zero, and_0x7f,
      or_shiftLeft_of_lt hx, Nat.mod_eq_of_lt hb, List.length_singleton]
    simp [show b.toNat / 128 = 0 by omega]
  | @cont b bs v hb _ ih =>
    intro s x hx
    have hb' := b.toNat_lt
    have hx' : x + b.toNat % 128 * 2 ^ s < 2 ^ (s + 7) := by
      rw [pow_add]; have := Nat.mod_lt b.toNat (show 128 > 0 by omega); nlinarith
    simp only [List.cons_append, varintLoop_cons, and_0x80_eq_zero, and_0x7f,
      or_shiftLeft_of_lt hx, show b.toNat / 128 % 2 = 1 by omega, one_ne_zero, if_false,
      ih (s + 7) _ hx', List.length_cons, pow_add]
    congr 1; ring

/-- The shortest varint is a varint. -/
theorem varintEnc_encodeVarint (v : ℕ) : VarintEnc (encodeVarint v) v := by
  induction v using Nat.strong_induction_on with
  | _ v ih =>
    rw [encodeVarint]
    split
    · next hv =>
      have hb : (UInt8.ofNat v).toNat = v := UInt8.toNat_ofNat_of_lt (show v < 256 by omega)
      have h := VarintEnc.last (UInt8.ofNat v) (by omega)
      rwa [hb] at h
    · next hv =>
      have hb : (UInt8.ofNat (v % 128 + 128)).toNat = v % 128 + 128 :=
        UInt8.toNat_ofNat_of_lt (show v % 128 + 128 < 256 by omega)
      have hv' : (UInt8.ofNat (v % 128 + 128)).toNat % 128 + 128 * (v / 128) = v := by omega
      have h := VarintEnc.cont (UInt8.ofNat (v % 128 + 128)) (by omega) (ih (v / 128) (by omega))
      rwa [hv'] at h

/-- The loop of `readVarint` on an encoded varint accumulates its value above the bits it
already holds, and consumes exactly its bytes. -/
theorem varintLoop_encodeVarint (v : ℕ) (rest : List UInt8) :
    ∀ s x, x < 2 ^ s →
      varintLoop (encodeVarint v ++ rest) s x = (x + v * 2 ^ s, (encodeVarint v).length) :=
  (varintEnc_encodeVarint v).varintLoop rest

namespace ArrayBuffer

/-- Bytes laid out from `p` end inside the buffer. -/
theorem add_le_of_drop {u8 : ArrayBuffer} {p : ℕ} {l rest : List UInt8}
    (h : u8.data.drop p = l ++ rest) (hl : l ≠ []) : p + l.length ≤ u8.data.length := by
  have hlen := congrArg List.length h
  have := List.length_pos.mpr hl
  simp only [List.length_drop, List.length_append] at hlen
  omega

/-- So cursors inside the buffer are exact. -/
theorem add_lt_of_drop {u8 : ArrayBuffer} {p : ℕ} {l rest : List UInt8}
    (h : u8.data.drop p = l ++ rest) (hl : l ≠ []) : p + l.length < 2 ^ 53 :=
  (add_le_of_drop h hl).trans_lt u8.byteLength_lt

theorem drop_add_of_drop {u8 : ArrayBuffer} {p : ℕ} {l rest : List UInt8}
    (h : u8.data.drop p = l ++ rest) : u8.data.drop (p + l.length) = rest := by
  rw [← List.drop_drop, h, List.drop_left]

end ArrayBuffer

/-- A varint below `2 ^ 53` laid out at `p` reads back as itself, with the cursor just past
it. -/
theorem readVarint_of_varintEnc {u8 : ArrayBuffer} {p v : ℕ} {bs rest : List UInt8}
    (h : u8.data.drop p = bs ++ rest) (hbs : VarintEnc bs v) (hv : v < 2 ^ 53) :
    readVarint u8 (.fin p) = ⟨.fin v, .fin (p + bs.length)⟩ := by
  simp only [readVarint, ArrayBuffer.bytesFrom_fin, h, hbs.varintLoop rest 0 0 (by norm_num),
    zero_add, pow_zero, mul_one, Num.ofNat_of_lt hv,
    Num.fin_add_fin_of_lt (ArrayBuffer.add_lt_of_drop h hbs.ne_nil)]

theorem readVarint_of_drop {u8 : ArrayBuffer} {p v : ℕ} {rest : List UInt8}
    (h : u8.data.drop p = encodeVarint v ++ rest) (hv : v < 2 ^ 53) :
    readVarint u8 (.fin p) = ⟨.fin v, .fin (p + (encodeVarint v).length)⟩ :=
  readVarint_of_varintEnc h (varintEnc_encodeVarint v) hv

/-! ### One record -/

/-- The payload of a record of wire type `w`: a varint below `2 ^ 53`, eight bytes, a length
varint below `2 ^ 53` and that many bytes, or four bytes. -/
inductive RecordPayload : ℕ → List UInt8 → Prop
  | varint {bs : List UInt8} {v : ℕ} (h : VarintEnc bs v) (hv : v < 2 ^ 53) : RecordPayload 0 bs
  | i64 {bs : List UInt8} (h : bs.length = 8) : RecordPayload 1 bs
  | len {lb body : List UInt8} {n : ℕ} (h : VarintEnc lb n) (hn : n < 2 ^ 53)
      (hbody : body.length = n) : RecordPayload 2 (lb ++ body)
  | i32 {bs : List UInt8} (h : bs.length = 4) : RecordPayload 5 bs

theorem RecordPayload.ne_nil {w : ℕ} {bs : List UInt8} (h : RecordPayload w bs) : bs ≠ [] := by
  cases h with
  | varint h => exact h.ne_nil
  | len h => simp [h.ne_nil]
  | i64 h | i32 h => exact List.ne_nil_of_length_pos (by omega)

/-- **The record-reader lemma.**  At the start of a record, a key varint `key` below `2 ^ 53`
and a payload of its wire type `key % 8`, `readVarint` returns the key and the index just past
it, and `skipField` from there returns the end of the record. -/
theorem readVarint_skipField_record {u8 : ArrayBuffer} {p key : ℕ} {kb pb rest : List UInt8}
    (h : u8.data.drop p = kb ++ pb ++ rest) (hkey : VarintEnc kb key) (hk : key < 2 ^ 53)
    (hpb : RecordPayload (key % 8) pb) :
    readVarint u8 (.fin p) = ⟨.fin key, .fin (p + kb.length)⟩ ∧
      skipField u8 (.fin (p + kb.length)) (key % 8) = .fin (p + kb.length + pb.length) := by
  rw [List.append_assoc] at h
  have hend := ArrayBuffer.add_lt_of_drop (by rw [h, ← List.append_assoc]) (l := kb ++ pb)
    (by simp [hkey.ne_nil])
  have hpay := ArrayBuffer.drop_add_of_drop h
  rw [List.length_append, ← Nat.add_assoc] at hend
  refine ⟨readVarint_of_varintEnc h hkey hk, ?_⟩
  generalize key % 8 = w at hpb
  cases hpb with
  | varint hv hv' => simp [skipField, readVarint_of_varintEnc hpay hv hv']
  | i64 hl | i32 hl => simp only [skipField]; rw [Num.fin_add_fin_of_lt (by omega), hl]
  | @len lb body n hlb hn hbody =>
    rw [List.append_assoc] at hpay
    simp only [skipField, readVarint_of_varintEnc hpay hlb hn]
    rw [Num.fin_add_fin_of_lt (by simp at hend; omega), List.length_append, hbody, Nat.add_assoc]

/-- A varint field `1 = 150` written with redundant groups, in its key (`0x88 0x00` for `8`)
and in its value (`0x96 0x81 0x00` for `150`). -/
def nonMinimalRecord : ArrayBuffer := ⟨[0x88, 0x00, 0x96, 0x81, 0x00], by decide⟩

theorem readVarint_skipField_nonMinimal :
    readVarint nonMinimalRecord (.fin 0) = ⟨.fin 8, .fin 2⟩ ∧
      skipField nonMinimalRecord (.fin 2) 0 = .fin 5 :=
  have hkey : VarintEnc [0x88, 0x00] 8 := .cont 0x88 (by decide) (.last 0x00 (by decide))
  have hval : VarintEnc [0x96, 0x81, 0x00] 150 :=
    .cont 0x96 (by decide) (.cont 0x81 (by decide) (.last 0x00 (by decide)))
  @readVarint_skipField_record nonMinimalRecord 0 8 _ _ [] rfl hkey (by norm_num)
    (.varint hval (by norm_num))

/-! ### Fields -/

/-- A field as an encoder writes it, by wire type. -/
inductive Field where
  /-- Wire type `0`: a varint. -/
  | varint (num v : ℕ)
  /-- Wire type `1`: eight bytes, little-endian. -/
  | i64 (num : ℕ) (v : UInt64)
  /-- Wire type `2`: a length varint and the bytes; strings and submessages. -/
  | len (num : ℕ) (payload : List UInt8)
  /-- Wire type `5`: four bytes, little-endian. -/
  | i32 (num : ℕ) (v : UInt32)
  deriving DecidableEq, Repr

namespace Field

/-- The field number. -/
def num : Field → ℕ
  | varint n _ | i64 n _ | len n _ | i32 n _ => n

/-- The wire type. -/
def wireType : Field → ℕ
  | varint .. => 0
  | i64 .. => 1
  | len .. => 2
  | i32 .. => 5

/-- The key: `(num << 3) | wireType`. -/
def key (f : Field) : ℕ := f.num * 8 + f.wireType

/-- The little-endian bytes of a fixed-width value. -/
def littleEndian (width v : ℕ) : List UInt8 :=
  (List.range width).map fun i => UInt8.ofNat (v >>> (8 * i))

/-- The bytes after the key. -/
def payload : Field → List UInt8
  | varint _ v => encodeVarint v
  | i64 _ v => littleEndian 8 v.toNat
  | len _ b => encodeVarint b.length ++ b
  | i32 _ v => littleEndian 4 v.toNat

/-- A field the readers read back exactly: field numbers `1 .. 2 ^ 29 - 1`, varint values below
`2 ^ 53`. -/
def Valid : Field → Prop
  | varint n v => 0 < n ∧ n < 2 ^ 29 ∧ v < 2 ^ 53
  | i64 n _ | len n _ | i32 n _ => 0 < n ∧ n < 2 ^ 29

instance : DecidablePred Valid
  | varint n v => inferInstanceAs (Decidable (0 < n ∧ n < 2 ^ 29 ∧ v < 2 ^ 53))
  | i64 n _ | len n _ | i32 n _ => inferInstanceAs (Decidable (0 < n ∧ n < 2 ^ 29))

theorem Valid.num_lt {f : Field} (hf : f.Valid) : f.num < 2 ^ 29 := by
  cases f <;> simp only [Valid, num] at hf ⊢ <;> omega

theorem wireType_lt (f : Field) : f.wireType < 8 := by cases f <;> simp [wireType]

theorem Valid.key_lt {f : Field} (hf : f.Valid) : f.key < 2 ^ 32 := by
  have := hf.num_lt; have := f.wireType_lt; unfold key; omega

@[simp] theorem key_wireType (f : Field) : (Num.fin f.key).wireType = f.wireType :=
  Num.wireType_key f.wireType_lt

/-- Compared with a small field number, the field number read from a valid key is the
field's own. -/
theorem Valid.fieldNo_key {f : Field} (hf : f.Valid) {m : ℤ} (hm : 0 ≤ m) (hm' : m < 2 ^ 28) :
    (Num.fin f.key).fieldNo = m ↔ (f.num : ℤ) = m :=
  Num.fieldNo_key_eq_iff hf.num_lt f.wireType_lt hm hm'

end Field

/-- A field as bytes: the key varint, then the payload. -/
def encodeField (f : Field) : List UInt8 := encodeVarint f.key ++ f.payload

/-- A message as bytes: its fields in order. -/
def encodeFields (fs : List Field) : List UInt8 := fs.flatMap encodeField

@[simp] theorem encodeFields_nil : encodeFields [] = [] := rfl

@[simp] theorem encodeFields_cons (f : Field) (fs : List Field) :
    encodeFields (f :: fs) = encodeField f ++ encodeFields fs := rfl

@[simp] theorem encodeFields_append (fs gs : List Field) :
    encodeFields (fs ++ gs) = encodeFields fs ++ encodeFields gs := List.flatMap_append _ _ _

theorem encodeField_ne_nil (f : Field) : encodeField f ≠ [] := by
  simp [encodeField, encodeVarint_ne_nil]

theorem length_littleEndian (width v : ℕ) : (Field.littleEndian width v).length = width := by
  simp [Field.littleEndian]

/-- A field laid out at `p`: its key reads back. -/
theorem readVarint_key {u8 : ArrayBuffer} {p : ℕ} {f : Field} {rest : List UInt8}
    (h : u8.data.drop p = encodeField f ++ rest) (hf : f.Valid) :
    readVarint u8 (.fin p) = ⟨.fin f.key, .fin (p + (encodeVarint f.key).length)⟩ :=
  readVarint_of_drop (by rw [h, encodeField, List.append_assoc]) (hf.key_lt.trans (by norm_num))

/-- The payload of a field laid out at `p` starts after its key. -/
theorem drop_payload {u8 : ArrayBuffer} {p : ℕ} {f : Field} {rest : List UInt8}
    (h : u8.data.drop p = encodeField f ++ rest) :
    u8.data.drop (p + (encodeVarint f.key).length) = f.payload ++ rest :=
  ArrayBuffer.drop_add_of_drop (by rw [h, encodeField, List.append_assoc])

/-- `skipField` steps from the end of a key over exactly its field. -/
theorem skipField_of_drop {u8 : ArrayBuffer} {p : ℕ} {f : Field} {rest : List UInt8}
    (h : u8.data.drop p = encodeField f ++ rest) (hf : f.Valid) :
    skipField u8 (.fin (p + (encodeVarint f.key).length)) f.wireType =
      .fin (p + (encodeField f).length) := by
  have hp := drop_payload h
  have hend := ArrayBuffer.add_lt_of_drop h (encodeField_ne_nil f)
  cases f with
  | varint n v =>
    simp only [Field.payload] at hp
    simp [skipField, Field.wireType, readVarint_of_drop hp hf.2.2, encodeField, Field.payload,
      Nat.add_assoc]
  | i64 n v =>
    simp only [encodeField, Field.payload, List.length_append, length_littleEndian] at hend ⊢
    simp only [skipField, Field.wireType]
    rw [Num.fin_add_fin_of_lt (by omega), Nat.add_assoc]
  | len n b =>
    simp only [Field.payload, List.append_assoc] at hp
    simp only [encodeField, Field.payload, List.length_append] at hend ⊢
    have hb : b.length < 2 ^ 53 := by omega
    simp only [skipField, Field.wireType, readVarint_of_drop hp hb]
    rw [Num.fin_add_fin_of_lt (by omega)]
    congr 1; omega
  | i32 n v =>
    simp only [encodeField, Field.payload, List.length_append, length_littleEndian] at hend ⊢
    simp only [skipField, Field.wireType]
    rw [Num.fin_add_fin_of_lt (by omega), Nat.add_assoc]

/-- The length of a `LEN` field laid out at `p` reads back after its key. -/
theorem readVarint_len {u8 : ArrayBuffer} {p n : ℕ} {b rest : List UInt8}
    (h : u8.data.drop p = encodeField (.len n b) ++ rest) :
    readVarint u8 (.fin (p + (encodeVarint (Field.len n b).key).length)) =
      ⟨.fin b.length,
        .fin (p + (encodeVarint (Field.len n b).key).length + (encodeVarint b.length).length)⟩ := by
  have hp := drop_payload h
  have hend := ArrayBuffer.add_lt_of_drop h (encodeField_ne_nil _)
  simp only [encodeField, Field.payload, List.length_append] at hp hend
  exact readVarint_of_drop (by rw [hp, List.append_assoc]) (by omega)

/-- The bytes of a `LEN` field laid out at `p` follow its length. -/
theorem drop_len_bytes {u8 : ArrayBuffer} {p n : ℕ} {b rest : List UInt8}
    (h : u8.data.drop p = encodeField (.len n b) ++ rest) :
    u8.data.drop (p + (encodeVarint (Field.len n b).key).length + (encodeVarint b.length).length) =
      b ++ rest :=
  ArrayBuffer.drop_add_of_drop (by rw [drop_payload h, Field.payload, List.append_assoc])

/-- The end of those bytes, `next + len`, is exact. -/
theorem len_end {u8 : ArrayBuffer} {p n : ℕ} {b rest : List UInt8}
    (h : u8.data.drop p = encodeField (.len n b) ++ rest) :
    Num.fin (p + (encodeVarint (Field.len n b).key).length + (encodeVarint b.length).length) +
      .fin b.length =
      .fin (p + (encodeVarint (Field.len n b).key).length + (encodeVarint b.length).length +
        b.length) := by
  have hend := ArrayBuffer.add_lt_of_drop h (encodeField_ne_nil _)
  simp only [encodeField, Field.payload, List.length_append] at hend
  exact Num.fin_add_fin_of_lt (by omega)

/-- It is the end of the field. -/
theorem len_end_eq (p n : ℕ) (b : List UInt8) :
    p + (encodeVarint (Field.len n b).key).length + (encodeVarint b.length).length + b.length =
      p + (encodeField (.len n b)).length := by
  simp only [encodeField, Field.payload, List.length_append]; omega

/-! ### A message loop over an encoded message -/

section Run

variable {ι α : Type} (u8 : ArrayBuffer) (stop : Num) (body : FieldBody α)
  (enc : ι → Field) (ok : ι → Prop) (step : ι → α → α) (k : ℕ)

/-- The body's effect on one field: from the end of the key of `enc x`, laid out at `p`, it
lands at the end of the field having applied `step x`, whenever the fuel is at least `k`. -/
def BodySpec : Prop :=
  ∀ x p rest obj fuel, ok x → k ≤ fuel → u8.data.drop p = encodeField (enc x) ++ rest →
    body fuel (Num.fin (enc x).key).fieldNo (enc x).wireType
      (.fin (p + (encodeVarint (enc x).key).length)) obj =
      .ret (.fin (p + (encodeField (enc x)).length), step x obj)

/-- A message loop over encoded fields followed by anything folds its body's effect over
them, as long as the loop's end lies beyond them, and goes on after them with the fuel left. -/
theorem fieldLoop_encodeFields_append (hvalid : ∀ x, ok x → (enc x).Valid)
    (hbody : BodySpec u8 body enc ok step k) :
    ∀ (xs : List ι) (p : ℕ) (rest : List UInt8) (obj : α) (fuel : ℕ),
      (∀ x ∈ xs, ok x) → u8.data.drop p = encodeFields (xs.map enc) ++ rest →
      (∀ q, q < p + (encodeFields (xs.map enc)).length → .fin q < stop) → xs.length + k ≤ fuel →
      fieldLoop u8 stop body fuel (.fin p) obj =
        fieldLoop u8 stop body (fuel - xs.length) (.fin (p + (encodeFields (xs.map enc)).length))
          (xs.foldl (fun o x => step x o) obj) := by
  intro xs
  induction xs with
  | nil => intro p _ obj fuel _ _ _ _; simp
  | cons x xs ih =>
    intro p rest obj fuel hok hdrop hstop hfuel
    obtain ⟨fuel, rfl⟩ : ∃ f, fuel = f + 1 := ⟨fuel - 1, by simp at hfuel; omega⟩
    simp only [List.map_cons, encodeFields_cons, List.append_assoc, List.length_append] at hdrop hstop
    have hne := List.length_pos.mpr (encodeField_ne_nil (enc x))
    have hx := hok x (List.mem_cons_self x xs)
    rw [fieldLoop_succ, if_pos (hstop p (by omega)), readVarint_key hdrop (hvalid x hx),
      Field.key_wireType, hbody x p _ obj fuel hx (by simp at hfuel; omega) hdrop, Outcome.ret_bind,
      ih _ rest _ fuel (fun y hy => hok y (List.mem_cons_of_mem x hy))
        (ArrayBuffer.drop_add_of_drop hdrop) (fun q hq => hstop q (by omega)) (by simp at hfuel; omega)]
    simp only [List.length_cons, List.map_cons, encodeFields_cons, List.length_append,
      List.foldl_cons, Nat.add_assoc, Nat.sub_succ_lt_self, Nat.add_sub_add_right]

/-- **A message loop over an encoded message folds its body's effect over the fields**, in
order, given fuel for each field and for what the body nests. -/
theorem fieldLoop_encodeFields (hvalid : ∀ x, ok x → (enc x).Valid)
    (hbody : BodySpec u8 body enc ok step k) :
    ∀ (xs : List ι) (p : ℕ) (rest : List UInt8) (obj : α) (fuel : ℕ),
      (∀ x ∈ xs, ok x) → u8.data.drop p = encodeFields (xs.map enc) ++ rest →
      stop = .fin (p + (encodeFields (xs.map enc)).length) → xs.length + k < fuel →
      fieldLoop u8 stop body fuel (.fin p) obj = .ret (xs.foldl (fun o x => step x o) obj) := by
  intro xs p rest obj fuel hok hdrop hstop hfuel
  rw [fieldLoop_encodeFields_append u8 stop body enc ok step k hvalid hbody xs p rest obj fuel hok
    hdrop (fun q hq => by simpa [hstop] using hq) (by omega)]
  obtain ⟨f, hf⟩ : ∃ f, fuel - xs.length = f + 1 := ⟨fuel - xs.length - 1, by omega⟩
  rw [hf]
  exact fieldLoop_of_not_lt u8 stop body (by simp [hstop]) f _

end Run

end Transit
