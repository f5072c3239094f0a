import Transit.Wire.Number

/-!
# The tiny protobuf reader

Both workers carry the same hand-written reader: `readVarint` and `skipField`, and message
loops of one shape, `while (pos < end) { key = readVarint(u8, pos); ... }`, whose bodies
dispatch on `key >> 3` and `key & 7`.  The ingestion worker uses it for `parseFeedMeta`, the
API worker for `parseFeedMessage` and the parsers it nests; `parseHeaderTimestamp` is word for
word the same in both and is modelled here once.

The reader never checks a bound.  Past the end of the buffer `u8[pos]` is `undefined`, which
`b & 0x7f` and `b & 0x80` both read as `0`: a varint there is `0` and one index long.  A loop
whose `end` lies past the buffer therefore keeps reading zero keys.  Whether it stops depends
on the double arithmetic of its cursor, so every loop is modelled with fuel, and a call
*returns* when enough fuel gives the same result (`Returns`).

## Main definitions

* `ArrayBuffer` — the fetched bytes, shorter than `2 ^ 53` as every `ArrayBuffer` is.
* `Outcome` — how a call ends at a given fuel: returns, throws, or has not finished.
* `readVarint`, `skipField` — the two primitives.
* `fieldLoop` — the message loop, with the body as a parameter.
* `parseHeaderTimestamp` — the header reader both workers share.

## Main results

* `fieldLoop_mono` — more fuel never changes a loop that finished.
* `Returns.of_mono` — so one fuel that finishes is enough to say the loop returns.
-/

namespace Transit

/-! ### Bytes, exceptions and outcomes -/

/-- The bytes of a fetched feed, an `ArrayBuffer`, read through `new Uint8Array(ab)`.  Like
every `ArrayBuffer` it is shorter than `2 ^ 53` bytes. -/
structure ArrayBuffer where
  /-- `u8[0]`, `u8[1]`, ... -/
  data : List UInt8
  byteLength_lt : data.length < 2 ^ 53

namespace ArrayBuffer

/-- The bytes `u8[pos]`, `u8[pos + 1]`, ... from a cursor on; nothing at `Infinity`. -/
def bytesFrom (u8 : ArrayBuffer) : Num → List UInt8
  | .fin p => u8.data.drop p
  | .inf => []

@[simp] theorem bytesFrom_fin (u8 : ArrayBuffer) (p : ℕ) : u8.bytesFrom (.fin p) = u8.data.drop p := rfl

@[simp] theorem bytesFrom_inf (u8 : ArrayBuffer) : u8.bytesFrom .inf = [] := rfl

/-- `u8.length` as a number. -/
def length (u8 : ArrayBuffer) : Num := .fin u8.data.length

end ArrayBuffer

/-- A JavaScript exception, by its constructor name and message. -/
structure JsError where
  name : String
  message : String
  deriving DecidableEq, Repr

/-- How a call ends when run with a given fuel: it returns a value, it throws, or it has not
finished when the fuel runs out. -/
inductive Outcome (α : Type) where
  | ret (a : α)
  | error (e : JsError)
  | outOfFuel
  deriving DecidableEq, Repr

namespace Outcome

/-- Run the rest of the call on the value returned. -/
def bind {α β : Type} : Outcome α → (α → Outcome β) → Outcome β
  | ret a, f => f a
  | error e, _ => error e
  | outOfFuel, _ => outOfFuel

/-- Apply a function to the value returned. -/
def map {α β : Type} (f : α → β) (o : Outcome α) : Outcome β := o.bind fun a => ret (f a)

variable {α β : Type}

@[simp] theorem ret_bind (a : α) (f : α → Outcome β) : (ret a).bind f = f a := rfl

@[simp] theorem error_bind (e : JsError) (f : α → Outcome β) : (error e).bind f = error e := rfl

@[simp] theorem outOfFuel_bind (f : α → Outcome β) : (outOfFuel : Outcome α).bind f = outOfFuel :=
  rfl

@[simp] theorem ret_map (f : α → β) (a : α) : (ret a).map f = ret (f a) := rfl

@[simp] theorem error_map (f : α → β) (e : JsError) : (error e).map f = error e := rfl

@[simp] theorem outOfFuel_map (f : α → β) : (outOfFuel : Outcome α).map f = outOfFuel := rfl

theorem bind_eq_ret {o : Outcome α} {f : α → Outcome β} {b : β} :
    o.bind f = ret b ↔ ∃ a, o = ret a ∧ f a = ret b := by
  cases o <;> simp [bind]

theorem map_eq_ret {o : Outcome α} {f : α → β} {b : β} :
    o.map f = ret b ↔ ∃ a, o = ret a ∧ f a = b := by
  cases o <;> simp [map, bind]

end Outcome

/-! ### Fuel -/

/-- A call modelled with fuel is monotone when more fuel never changes an outcome that
finished. -/
def FuelMono {α : Type} (f : ℕ → Outcome α) : Prop :=
  ∀ n, f n ≠ .outOfFuel → f (n + 1) = f n

/-- A call modelled with fuel returns `a` when every large enough fuel gives `a`. -/
def Returns {α : Type} (f : ℕ → Outcome α) (a : α) : Prop :=
  ∃ n, ∀ m, n ≤ m → f m = .ret a

theorem FuelMono.le {α : Type} {f : ℕ → Outcome α} (hf : FuelMono f) {n : ℕ}
    (hn : f n ≠ .outOfFuel) : ∀ m, n ≤ m → f m = f n := by
  intro m hm
  induction m, hm using Nat.le_induction with
  | base => rfl
  | succ m _ ih => rw [hf m (ih ▸ hn), ih]

/-- One fuel that finishes is enough for a monotone call. -/
theorem Returns.of_mono {α : Type} {f : ℕ → Outcome α} (hf : FuelMono f) {n : ℕ} {a : α}
    (h : f n = .ret a) : Returns f a :=
  ⟨n, fun m hm => (hf.le (by simp [h]) m hm).trans h⟩

theorem FuelMono.const {α : Type} (o : Outcome α) : FuelMono fun _ => o := fun _ _ => rfl

theorem FuelMono.map {α β : Type} {f : ℕ → Outcome α} (hf : FuelMono f) (g : α → β) :
    FuelMono fun n => (f n).map g := by
  intro n hn
  cases h : f n with
  | outOfFuel => simp [h] at hn
  | _ => simp only; rw [hf n (by simp [h]), h]

/-! ### The two primitives -/

/-- The loop of `readVarint` over the bytes from its cursor: `x |= BigInt(b & 0x7f) << s`
until a byte without `0x80`.  Past the end `u8[pos]` is `undefined`, which both masks read as
`0`, so the loop stops there.  Returns `x` and how many times `pos++` ran. -/
def varintLoop : List UInt8 → ℕ → ℕ → ℕ × ℕ
  | [], _, x => (x, 1)
  | b :: bs, s, x =>
    if b.toNat &&& 0x80 = 0 then (x ||| ((b.toNat &&& 0x7f) <<< s), 1)
    else
      let r := varintLoop bs (s + 7) (x ||| ((b.toNat &&& 0x7f) <<< s))
      (r.1, r.2 + 1)

/-- What `readVarint` returns. -/
structure Varint where
  value : Num
  next : Num
  deriving DecidableEq, Repr

/-- `readVarint(u8, i)`: `Number(x)`, and the cursor after `pos++` ran as often as the loop
did.  One sum stands for those steps: inside the buffer the cursor stays at most `2 ^ 53`,
where every step is exact, and past the end the loop runs once. -/
def readVarint (u8 : ArrayBuffer) (i : Num) : Varint :=
  let r := varintLoop (u8.bytesFrom i) 0 0
  ⟨.ofNat r.1, i + .fin r.2⟩

/-- `skipField(u8, pos, wireType)`: the cursor after a field's payload, by its wire type;
the deprecated group types `3` and `4`, and `6` and `7`, leave the cursor in place. -/
def skipField (u8 : ArrayBuffer) (pos : Num) : ℕ → Num
  | 0 => (readVarint u8 pos).next
  | 1 => pos + .fin 8
  | 2 => let r := readVarint u8 pos; r.next + r.value
  | 5 => pos + .fin 4
  | _ => pos

/-! ### The message loop -/

/-- What one iteration of a message loop does once its key is read: from the fuel left,
`fieldNo`, `wireType`, the cursor after the key and the object so far, the cursor after the
field and the updated object. -/
abbrev FieldBody (α : Type) := ℕ → ℤ → ℕ → Num → α → Outcome (Num × α)

/-- The message loop of every reader: `while (pos < end)` read a key and let `body` handle
the field.  The fuel bounds the iterations and is handed on to the parses `body` nests. -/
def fieldLoop {α : Type} (u8 : ArrayBuffer) (stop : Num) (body : FieldBody α) :
    ℕ → Num → α → Outcome α
  | 0, _, _ => .outOfFuel
  | fuel + 1, pos, obj =>
    if pos < stop then
      let key := readVarint u8 pos
      (body fuel key.value.fieldNo key.value.wireType key.next obj).bind
        fun r => fieldLoop u8 stop body fuel r.1 r.2
    else .ret obj

section Loop

variable {α : Type} (u8 : ArrayBuffer) (stop : Num) (body : FieldBody α)

@[simp] theorem fieldLoop_zero (pos : Num) (obj : α) :
    fieldLoop u8 stop body 0 pos obj = .outOfFuel := rfl

theorem fieldLoop_succ (fuel : ℕ) (pos : Num) (obj : α) :
    fieldLoop u8 stop body (fuel + 1) pos obj =
      if pos < stop then
        (body fuel (readVarint u8 pos).value.fieldNo (readVarint u8 pos).value.wireType
          (readVarint u8 pos).next obj).bind fun r => fieldLoop u8 stop body fuel r.1 r.2
      else .ret obj := rfl

theorem fieldLoop_of_not_lt {pos : Num} (h : ¬ pos < stop) (fuel : ℕ) (obj : α) :
    fieldLoop u8 stop body (fuel + 1) pos obj = .ret obj := by
  rw [fieldLoop_succ, if_neg h]

/-- A loop body is monotone in its fuel when every nested parse it runs is. -/
def BodyMono : Prop := ∀ fno wt pos (obj : α), FuelMono fun n => body n fno wt pos obj

/-- More fuel never changes a message loop that finished. -/
theorem fieldLoop_mono (hb : BodyMono body) (pos : Num) (obj : α) :
    FuelMono fun n => fieldLoop u8 stop body n pos obj := by
  intro n
  induction n generalizing pos obj with
  | zero => simp
  | succ n ih =>
    intro hn
    show fieldLoop u8 stop body (n + 1 + 1) pos obj = fieldLoop u8 stop body (n + 1) pos obj
    dsimp only at hn
    rw [fieldLoop_succ u8 stop body n] at hn
    rw [fieldLoop_succ u8 stop body (n + 1), fieldLoop_succ u8 stop body n]
    by_cases hlt : pos < stop
    · rw [if_pos hlt] at hn ⊢
      rw [if_pos hlt]
      have hbm := hb (readVarint u8 pos).value.fieldNo (readVarint u8 pos).value.wireType
        (readVarint u8 pos).next obj n
      cases hbo : body n (readVarint u8 pos).value.fieldNo (readVarint u8 pos).value.wireType
          (readVarint u8 pos).next obj with
      | ret r =>
        rw [hbo, Outcome.ret_bind] at hn
        simp only [hbo] at hbm
        rw [hbm (by simp), Outcome.ret_bind, Outcome.ret_bind]
        exact ih r.1 r.2 hn
      | error e =>
        simp only [hbo] at hbm
        rw [hbm (by simp)]
        rfl
      | outOfFuel => simp [hbo] at hn
    · rw [if_neg hlt, if_neg hlt]

/-- A loop body that never throws. -/
def BodyTotal : Prop := ∀ n fno wt pos (obj : α) e, body n fno wt pos obj ≠ .error e

/-- A message loop throws only what its body throws. -/
theorem fieldLoop_ne_error (hb : BodyTotal body) :
    ∀ (fuel : ℕ) (pos : Num) (obj : α) (e : JsError), fieldLoop u8 stop body fuel pos obj ≠ .error e
  | 0, _, _, _ => Outcome.noConfusion
  | fuel + 1, pos, obj, e => by
    rw [fieldLoop_succ]
    split_ifs
    · cases h : body fuel (readVarint u8 pos).value.fieldNo (readVarint u8 pos).value.wireType
          (readVarint u8 pos).next obj with
      | ret r => exact fieldLoop_ne_error hb fuel r.1 r.2 e
      | error e' => exact absurd h (hb _ _ _ _ _ e')
      | outOfFuel => exact Outcome.noConfusion
    · exact Outcome.noConfusion

end Loop

/-! ### The header timestamp -/

/-- The body of `parseHeaderTimestamp`: a varint in field 3 is the timestamp, anything else is
skipped. -/
def headerTimestampBody (u8 : ArrayBuffer) : FieldBody (Option Num) :=
  fun _ fieldNo wireType pos ts =>
    if fieldNo = 3 ∧ wireType = 0 then
      let r := readVarint u8 pos
      .ret (r.next, some r.value)
    else .ret (skipField u8 pos wireType, ts)

/-- `parseHeaderTimestamp(u8, start, end)`: the last varint of field 3 in the header
`[start, end)`, or `null`. -/
def parseHeaderTimestamp (fuel : ℕ) (u8 : ArrayBuffer) (start stop : Num) :
    Outcome (Option Num) :=
  fieldLoop u8 stop (headerTimestampBody u8) fuel start none

theorem headerTimestampBody_mono (u8 : ArrayBuffer) : BodyMono (headerTimestampBody u8) := by
  intro fno wt pos obj n _
  rfl

theorem parseHeaderTimestamp_mono (u8 : ArrayBuffer) (start stop : Num) :
    FuelMono fun n => parseHeaderTimestamp n u8 start stop :=
  fieldLoop_mono u8 stop _ (headerTimestampBody_mono u8) start none

theorem headerTimestampBody_total (u8 : ArrayBuffer) : BodyTotal (headerTimestampBody u8) := by
  intro n fno wt pos obj e
  simp only [headerTimestampBody]
  split_ifs <;> exact Outcome.noConfusion

end Transit
