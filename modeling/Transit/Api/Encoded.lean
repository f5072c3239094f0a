import Transit.Api.Decode
import Transit.Ingest.FeedMeta

/-!
# Encoded entities decode wherever they sit

The decoder's parsers read one buffer with absolute cursors, and a nested parse reads the range
its parent hands it.  On the bytes a standard encoder writes, what each parse returns depends
only on the bytes of its range: a message loop lands on every key, `readVarint` never reads
past a field, and `u8.subarray(start, end)` gives the field's own bytes.  So an encoded
entity decodes to one value at every offset of every buffer, whatever follows it.

The well-formed messages are given by their fields, one inductive type per message the decoder
nests, with the submessages it parses held as their own fields: a trip update and its trip
descriptor and stop time updates with their events, a vehicle position with its trip and the
field-`2` message the decoder reads as the vehicle descriptor.  Positions are left out: the
float reads of `parsePosition` throw, with a message that depends on how far the buffer extends
past the field.  What each field does is read from the parsers' bodies: `tripDescriptorStep`
and the `step` of each field type.

## Main definitions

* `DecodesTo` — a parse decodes some bytes to a value, at every offset and whatever follows.
* `tripDescriptorStep`, `vehicleDescriptorStep`, `stopTimeEventStep` — what the parsers that
  nest nothing make of a field.
* `StopTimeUpdateField`, `TripUpdateField`, `VehiclePositionField`, `EntityField` — the fields
  of the messages that nest one, with `toField`, `Ok`, `fuel`, `step` and `decode`.

## Main results

* `fieldLoop_decodesTo` — a message loop decodes an encoded message wherever it sits.
* `parseEntity_decodesTo` — **every encoded entity without a position decodes wherever it
  sits**, to the fold of its fields' steps.
-/

namespace Transit

/-- A parse decodes the bytes `b` to `a` wherever they are laid out and whatever follows
them, at every fuel from `k` on. -/
def DecodesTo {α : Type} (parse : ℕ → ArrayBuffer → Num → Num → Outcome α) (k : ℕ)
    (b : List UInt8) (a : α) : Prop :=
  ∀ (u8 : ArrayBuffer) (p : ℕ) (rest : List UInt8) (fuel : ℕ), k ≤ fuel →
    u8.data.drop p = b ++ rest → parse fuel u8 (.fin p) (.fin (p + b.length)) = .ret a

/-! ### One encoded field -/

/-- `u8.subarray(start, end)` over the bytes laid out at `start` gives them back. -/
theorem ArrayBuffer.subarray_of_drop {u8 : ArrayBuffer} {s : ℕ} {b rest : List UInt8}
    (h : u8.data.drop s = b ++ rest) : u8.subarray (.fin s) (.fin (s + b.length)) = b := by
  have hlen := congrArg List.length h
  simp only [List.length_drop, List.length_append] at hlen
  rcases Nat.lt_or_ge s u8.data.length with hs | hs
  · simp only [ArrayBuffer.subarray, ArrayBuffer.clamp, min_eq_left hs.le,
      min_eq_left (show s + b.length ≤ u8.data.length by omega), h, Nat.add_sub_cancel_left,
      List.take_left']
  · have hb : b = [] := List.eq_nil_of_length_eq_zero (by omega)
    subst hb
    simp [ArrayBuffer.subarray]

/-- Compared with a small field number, the field number read from a valid key is the field's
own, as a natural number. -/
theorem Field.Valid.fieldNo_eq {f : Field} (hf : f.Valid) {m : ℤ} (hm : 0 ≤ m) (hm' : m < 2 ^ 28) :
    (Num.fin f.key).fieldNo = m ↔ f.num = m.toNat :=
  (hf.fieldNo_key hm hm').trans (by omega)

/-- The key of a field numbered below `2 ^ 28` gives back its number. -/
theorem Field.fieldNo_key_of_lt {f : Field} (h : f.num < 2 ^ 28) :
    (Num.fin f.key).fieldNo = f.num := by
  rw [Field.key, Num.fieldNo_key (by omega) f.wireType_lt, if_pos h]

section OneField

variable {α : Type} {u8 : ArrayBuffer} {p : ℕ} {rest : List UInt8}

/-- `lenField` at a `LEN` field laid out at `p` hands its continuation the field's bytes and
lands at the field's end. -/
theorem lenField_of_drop {n : ℕ} {b : List UInt8} (h : u8.data.drop p = encodeField (.len n b) ++ rest)
    (k : Num → Num → Outcome α) :
    lenField u8 (.fin (p + (encodeVarint (Field.len n b).key).length)) k =
      (k (.fin (p + (encodeVarint (Field.len n b).key).length + (encodeVarint b.length).length))
          (.fin (p + (encodeVarint (Field.len n b).key).length + (encodeVarint b.length).length +
            b.length))).map
        fun a => (.fin (p + (encodeField (.len n b)).length), a) := by
  simp only [lenField, readVarint_len h, len_end h]
  congr 2
  rw [len_end_eq]

/-- `varintField` at a varint field laid out at `p` hands its continuation the value. -/
theorem varintField_of_drop {n v : ℕ} (h : u8.data.drop p = encodeField (.varint n v) ++ rest)
    (hv : v < 2 ^ 53) (k : Num → α) :
    varintField u8 (.fin (p + (encodeVarint (Field.varint n v).key).length)) k =
      .ret (.fin (p + (encodeField (.varint n v)).length), k (.fin v)) := by
  have hp := drop_payload h
  simp only [Field.payload] at hp
  simp [varintField, readVarint_of_drop hp hv, encodeField, Field.payload, Nat.add_assoc]

/-- `skip` steps over a field laid out at `p`. -/
theorem skip_of_drop {f : Field} (h : u8.data.drop p = encodeField f ++ rest) (hf : f.Valid)
    (obj : α) :
    skip u8 (.fin (p + (encodeVarint f.key).length)) f.wireType obj =
      .ret (.fin (p + (encodeField f).length), obj) := by
  rw [skip, skipField_of_drop h hf]

end OneField

/-! ### A message loop over an encoded message -/

section Loop

variable {ι α : Type} (body : ArrayBuffer → FieldBody α) (enc : ι → Field) (ok : ι → Prop)
  (step : ι → α → α) (k : ℕ)

/-- **A message loop decodes an encoded message wherever it sits**, to the fold of its
fields' steps, at every fuel beyond one iteration a field and what the body nests. -/
theorem fieldLoop_decodesTo (hvalid : ∀ x, ok x → (enc x).Valid)
    (hbody : ∀ u8, BodySpec u8 (body u8) enc ok step k) (init : α) {xs : List ι}
    (hxs : ∀ x ∈ xs, ok x) :
    DecodesTo (fun fuel u8 s e => fieldLoop u8 e (body u8) fuel s init) (xs.length + k + 1)
      (encodeFields (xs.map enc)) (xs.foldl (fun o x => step x o) init) :=
  fun u8 p rest fuel hfuel h =>
    fieldLoop_encodeFields u8 _ (body u8) enc ok step k hvalid (hbody u8) xs p rest init fuel hxs
      h rfl (by omega)

/-- With the fuel a field needs bounded by the sum over the message. -/
theorem fieldLoop_decodesTo_sum (fuel : ι → ℕ) (hvalid : ∀ x, ok x → (enc x).Valid)
    (hbody : ∀ u8 k, BodySpec u8 (body u8) enc (fun x => ok x ∧ fuel x ≤ k) step k) (init : α)
    {xs : List ι} (hxs : ∀ x ∈ xs, ok x) :
    DecodesTo (fun fuel u8 s e => fieldLoop u8 e (body u8) fuel s init)
      (xs.length + (xs.map fuel).sum + 1)
      (encodeFields (xs.map enc)) (xs.foldl (fun o x => step x o) init) :=
  fieldLoop_decodesTo body enc _ step _ (fun x hx => hvalid x hx.1) (fun u8 => hbody u8 _) init
    fun x hx => ⟨hxs x hx, List.le_sum_of_mem (List.mem_map_of_mem fuel hx)⟩

end Loop

/-! ### The messages that nest nothing -/

/-- What `parseTripDescriptor` makes of a field: the bytes of a `LEN` field `1` are the
`trip_id`, of a `LEN` field `3` the `route_id`, and every other field is skipped. -/
def tripDescriptorStep : Field → TripDescriptor → TripDescriptor
  | .len n b, td =>
    if n = 1 then { td with trip_id := some b } else if n = 3 then { td with route_id := some b }
    else td
  | _, td => td

/-- What `parseVehicleDescriptor` makes of a field: the bytes of a `LEN` field `1` are the
`id`. -/
def vehicleDescriptorStep : Field → VehicleDescriptor → VehicleDescriptor
  | .len n b, vd => if n = 1 then { vd with id := some b } else vd
  | _, vd => vd

/-- What `parseStopTimeEvent` makes of a field: varints in fields `1` and `2` are the `delay`
and the `time`. -/
def stopTimeEventStep : Field → StopTimeEvent → StopTimeEvent
  | .varint n v, ev =>
    if n = 1 then { ev with delay := some (.fin v) } else if n = 2 then { ev with time := some (.fin v) }
    else ev
  | _, ev => ev

section Leaves

variable (u8 : ArrayBuffer)

theorem tripDescriptorBody_spec :
    BodySpec u8 (tripDescriptorBody u8) id Field.Valid tripDescriptorStep 0 := by
  intro f p rest td fuel hf _ h
  simp only [id] at h ⊢
  cases f with
  | len n b =>
    simp only [id, tripDescriptorBody, Field.wireType, if_true, lenField_of_drop h,
      ArrayBuffer.subarray_of_drop (drop_len_bytes h), Outcome.ret_map,
      hf.fieldNo_eq (m := 1) (by norm_num) (by norm_num),
      hf.fieldNo_eq (m := 3) (by norm_num) (by norm_num), Field.num, Int.toNat_one, Int.reduceToNat,
      tripDescriptorStep]
  | _ => exact skip_of_drop h hf td

theorem vehicleDescriptorBody_spec :
    BodySpec u8 (vehicleDescriptorBody u8) id Field.Valid vehicleDescriptorStep 0 := by
  intro f p rest vd fuel hf _ h
  simp only [id] at h ⊢
  cases f with
  | len n b =>
    simp only [id, vehicleDescriptorBody, Field.wireType, if_true, lenField_of_drop h,
      ArrayBuffer.subarray_of_drop (drop_len_bytes h), Outcome.ret_map,
      hf.fieldNo_eq (m := 1) (by norm_num) (by norm_num), Field.num, Int.toNat_one, Int.reduceToNat, vehicleDescriptorStep]
  | _ => exact skip_of_drop h hf vd

theorem stopTimeEventBody_spec :
    BodySpec u8 (stopTimeEventBody u8) id Field.Valid stopTimeEventStep 0 := by
  intro f p rest ev fuel hf _ h
  simp only [id] at h ⊢
  cases f with
  | varint n v =>
    simp only [id, stopTimeEventBody, Field.wireType, and_true,
      hf.fieldNo_eq (m := 1) (by norm_num) (by norm_num),
      hf.fieldNo_eq (m := 2) (by norm_num) (by norm_num), Field.num, Int.toNat_one, Int.reduceToNat,
      stopTimeEventStep]
    split_ifs <;> first
      | exact varintField_of_drop h hf.2.2 _
      | exact skip_of_drop h hf ev
  | _ =>
    simp only [stopTimeEventBody, Field.wireType, stopTimeEventStep, and_false, if_false,
      one_ne_zero, OfNat.ofNat_ne_zero]
    exact skip_of_drop h hf ev

end Leaves

/-- The trip descriptor the fields of a message decode to. -/
def decodeTripDescriptor (fs : List Field) : TripDescriptor :=
  fs.foldl (fun td f => tripDescriptorStep f td) {}

/-- The vehicle descriptor the fields of a message decode to. -/
def decodeVehicleDescriptor (fs : List Field) : VehicleDescriptor :=
  fs.foldl (fun vd f => vehicleDescriptorStep f vd) {}

/-- The stop time event the fields of a message decode to. -/
def decodeEvent (fs : List Field) : StopTimeEvent := fs.foldl (fun ev f => stopTimeEventStep f ev) {}

section Leaves

variable {fs : List Field} (hfs : ∀ f ∈ fs, f.Valid)
include hfs

theorem parseTripDescriptor_decodesTo :
    DecodesTo parseTripDescriptor (fs.length + 1) (encodeFields fs) (decodeTripDescriptor fs) := by
  have h := fieldLoop_decodesTo tripDescriptorBody id Field.Valid tripDescriptorStep 0
    (fun _ h => h) tripDescriptorBody_spec {} hfs
  rwa [List.map_id, Nat.add_zero] at h

theorem parseVehicleDescriptor_decodesTo :
    DecodesTo parseVehicleDescriptor (fs.length + 1) (encodeFields fs)
      (decodeVehicleDescriptor fs) := by
  have h := fieldLoop_decodesTo vehicleDescriptorBody id Field.Valid vehicleDescriptorStep 0
    (fun _ h => h) vehicleDescriptorBody_spec {} hfs
  rwa [List.map_id, Nat.add_zero] at h

theorem parseStopTimeEvent_decodesTo :
    DecodesTo parseStopTimeEvent (fs.length + 1) (encodeFields fs) (decodeEvent fs) := by
  have h := fieldLoop_decodesTo stopTimeEventBody id Field.Valid stopTimeEventStep 0
    (fun _ h => h) stopTimeEventBody_spec {} hfs
  rwa [List.map_id, Nat.add_zero] at h

end Leaves

/-! ### Stop time updates -/

/-- A field of a stop time update as an encoder writes it: the arrival (field `2`) or the
departure (field `3`) by the fields of its event, or any other field. -/
inductive StopTimeUpdateField where
  | arrival (fs : List Field)
  | departure (fs : List Field)
  | plain (f : Field)

namespace StopTimeUpdateField

/-- The field an encoder writes. -/
def toField : StopTimeUpdateField → Field
  | arrival fs => .len 2 (encodeFields fs)
  | departure fs => .len 3 (encodeFields fs)
  | plain f => f

/-- Well formed: every field valid, and a `LEN` field `2` or `3` always an event. -/
def Ok : StopTimeUpdateField → Prop
  | arrival fs | departure fs => ∀ f ∈ fs, f.Valid
  | plain f => f.Valid ∧ ¬ (f.wireType = 2 ∧ (f.num = 2 ∨ f.num = 3))

instance : DecidablePred Ok
  | arrival fs | departure fs => inferInstanceAs (Decidable (∀ f ∈ fs, f.Valid))
  | plain f => inferInstanceAs (Decidable (f.Valid ∧ ¬ (f.wireType = 2 ∧ (f.num = 2 ∨ f.num = 3))))

/-- The fuel the loop of a nested event needs. -/
def fuel : StopTimeUpdateField → ℕ
  | arrival fs | departure fs => fs.length + 1
  | plain _ => 0

/-- What `parseStopTimeUpdate` makes of the field: an event decoded in its place, the bytes of
a `LEN` field `1` as the `stop_id`, a varint in field `4` as the `stop_sequence`. -/
def step : StopTimeUpdateField → StopTimeUpdate → StopTimeUpdate
  | arrival fs, stu => { stu with arrival := decodeEvent fs }
  | departure fs, stu => { stu with departure := decodeEvent fs }
  | plain (.len n b), stu => if n = 1 then { stu with stop_id := some b } else stu
  | plain (.varint n v), stu => if n = 4 then { stu with stop_sequence := some (.fin v) } else stu
  | plain _, stu => stu

/-- The stop time update the fields of a message decode to. -/
def decode (xs : List StopTimeUpdateField) : StopTimeUpdate := xs.foldl (fun o x => x.step o) {}

theorem Ok.toField {x : StopTimeUpdateField} (hx : x.Ok) : x.toField.Valid := by
  cases x with
  | arrival | departure => exact ⟨by norm_num, by norm_num⟩
  | plain => exact hx.1

end StopTimeUpdateField

theorem stopTimeUpdateBody_spec (u8 : ArrayBuffer) (k : ℕ) :
    BodySpec u8 (stopTimeUpdateBody u8) StopTimeUpdateField.toField
      (fun x => x.Ok ∧ x.fuel ≤ k) StopTimeUpdateField.step k := by
  rintro x p rest stu fuel ⟨hx, hk⟩ hfuel h
  cases x with
  | arrival fs =>
    simp only [StopTimeUpdateField.toField] at h ⊢
    have hev := parseStopTimeEvent_decodesTo hx u8 _ rest fuel
      (by simp only [StopTimeUpdateField.fuel] at hk; omega) (drop_len_bytes h)
    simp [stopTimeUpdateBody, Field.wireType, lenField_of_drop h, Field.fieldNo_key_of_lt,
      Field.num, hev, StopTimeUpdateField.step]
  | departure fs =>
    simp only [StopTimeUpdateField.toField] at h ⊢
    have hev := parseStopTimeEvent_decodesTo hx u8 _ rest fuel
      (by simp only [StopTimeUpdateField.fuel] at hk; omega) (drop_len_bytes h)
    simp [stopTimeUpdateBody, Field.wireType, lenField_of_drop h, Field.fieldNo_key_of_lt,
      Field.num, hev, StopTimeUpdateField.step]
  | plain f =>
    simp only [StopTimeUpdateField.toField] at h ⊢
    obtain ⟨hf, hnest⟩ := hx
    cases f with
    | len n b =>
      simp only [Field.wireType, Field.num, true_and, not_or] at hnest
      simp only [stopTimeUpdateBody, Field.wireType, if_true, lenField_of_drop h,
        ArrayBuffer.subarray_of_drop (drop_len_bytes h), StopTimeUpdateField.step,
        hf.fieldNo_eq (m := 1) (by norm_num) (by norm_num),
        hf.fieldNo_eq (m := 2) (by norm_num) (by norm_num),
        hf.fieldNo_eq (m := 3) (by norm_num) (by norm_num), Field.num, Int.toNat_one,
        Int.reduceToNat, hnest.1, hnest.2, if_false]
      split_ifs <;> rfl
    | varint n v =>
      simp only [stopTimeUpdateBody, Field.wireType, StopTimeUpdateField.step,
        hf.fieldNo_eq (m := 4) (by norm_num) (by norm_num), Field.num, Int.reduceToNat,
        and_true, Nat.reduceEqDiff, if_false]
      split_ifs
      · exact varintField_of_drop h hf.2.2 _
      · exact skip_of_drop h hf stu
    | _ =>
      simp only [stopTimeUpdateBody, Field.wireType, StopTimeUpdateField.step, and_false,
        if_false, one_ne_zero, OfNat.ofNat_ne_zero, Nat.reduceEqDiff]
      exact skip_of_drop h hf stu

theorem parseStopTimeUpdate_decodesTo {xs : List StopTimeUpdateField} (hxs : ∀ x ∈ xs, x.Ok) :
    DecodesTo parseStopTimeUpdate (xs.length + (xs.map StopTimeUpdateField.fuel).sum + 1)
      (encodeFields (xs.map StopTimeUpdateField.toField)) (StopTimeUpdateField.decode xs) :=
  fieldLoop_decodesTo_sum stopTimeUpdateBody _ _ _ _ (fun _ h => h.toField)
    stopTimeUpdateBody_spec {} hxs

/-! ### Trip updates -/

/-- A field of a trip update as an encoder writes it: the trip (field `1`) by the fields of its
descriptor, a stop time update (field `2`) by its fields, or any other field. -/
inductive TripUpdateField where
  | trip (fs : List Field)
  | stopTimeUpdate (xs : List StopTimeUpdateField)
  | plain (f : Field)

namespace TripUpdateField

/-- The field an encoder writes. -/
def toField : TripUpdateField → Field
  | trip fs => .len 1 (encodeFields fs)
  | stopTimeUpdate xs => .len 2 (encodeFields (xs.map StopTimeUpdateField.toField))
  | plain f => f

/-- Well formed: every field valid, and a `LEN` field `1` or `2` always a submessage. -/
def Ok : TripUpdateField → Prop
  | trip fs => ∀ f ∈ fs, f.Valid
  | stopTimeUpdate xs => ∀ x ∈ xs, x.Ok
  | plain f => f.Valid ∧ ¬ (f.wireType = 2 ∧ (f.num = 1 ∨ f.num = 2))

instance : DecidablePred Ok
  | trip fs => inferInstanceAs (Decidable (∀ f ∈ fs, f.Valid))
  | stopTimeUpdate xs => inferInstanceAs (Decidable (∀ x ∈ xs, x.Ok))
  | plain f => inferInstanceAs (Decidable (f.Valid ∧ ¬ (f.wireType = 2 ∧ (f.num = 1 ∨ f.num = 2))))

/-- The fuel the loop of a nested message needs. -/
def fuel : TripUpdateField → ℕ
  | trip fs => fs.length + 1
  | stopTimeUpdate xs => xs.length + (xs.map StopTimeUpdateField.fuel).sum + 1
  | plain _ => 0

/-- What `parseTripUpdate` makes of the field: the trip decoded in its place, a stop time
update decoded and appended; every other field leaves the trip update as it is. -/
def step : TripUpdateField → TripUpdate → TripUpdate
  | trip fs, tu => { tu with trip := decodeTripDescriptor fs }
  | stopTimeUpdate xs, tu =>
    { tu with stop_time_update := tu.stop_time_update ++ [StopTimeUpdateField.decode xs] }
  | plain _, tu => tu

/-- The trip update the fields of a message decode to. -/
def decode (xs : List TripUpdateField) : TripUpdate := xs.foldl (fun o x => x.step o) {}

theorem Ok.toField {x : TripUpdateField} (hx : x.Ok) : x.toField.Valid := by
  cases x with
  | trip | stopTimeUpdate => exact ⟨by norm_num, by norm_num⟩
  | plain => exact hx.1

end TripUpdateField

theorem tripUpdateBody_spec (u8 : ArrayBuffer) (k : ℕ) :
    BodySpec u8 (tripUpdateBody u8) TripUpdateField.toField (fun x => x.Ok ∧ x.fuel ≤ k)
      TripUpdateField.step k := by
  rintro x p rest tu fuel ⟨hx, hk⟩ hfuel h
  cases x with
  | trip fs =>
    simp only [TripUpdateField.toField] at h ⊢
    have htd := parseTripDescriptor_decodesTo hx u8 _ rest fuel
      (by simp only [TripUpdateField.fuel] at hk; omega) (drop_len_bytes h)
    simp [tripUpdateBody, Field.wireType, lenField_of_drop h, Field.fieldNo_key_of_lt,
      Field.num, htd, TripUpdateField.step]
  | stopTimeUpdate xs =>
    simp only [TripUpdateField.toField] at h ⊢
    have hstu := parseStopTimeUpdate_decodesTo hx u8 _ rest fuel
      (by simp only [TripUpdateField.fuel] at hk; omega) (drop_len_bytes h)
    simp [tripUpdateBody, Field.wireType, lenField_of_drop h, Field.fieldNo_key_of_lt,
      Field.num, hstu, TripUpdateField.step]
  | plain f =>
    simp only [TripUpdateField.toField] at h ⊢
    obtain ⟨hf, hnest⟩ := hx
    cases f with
    | len n b =>
      simp only [Field.wireType, Field.num, true_and, not_or] at hnest
      simp only [tripUpdateBody, Field.wireType, if_true, lenField_of_drop h,
        TripUpdateField.step, hf.fieldNo_eq (m := 1) (by norm_num) (by norm_num),
        hf.fieldNo_eq (m := 2) (by norm_num) (by norm_num), Field.num, Int.toNat_one,
        Int.reduceToNat, hnest.1, hnest.2, if_false, Outcome.ret_map]
    | _ => exact skip_of_drop h hf tu

theorem parseTripUpdate_decodesTo {xs : List TripUpdateField} (hxs : ∀ x ∈ xs, x.Ok) :
    DecodesTo parseTripUpdate (xs.length + (xs.map TripUpdateField.fuel).sum + 1)
      (encodeFields (xs.map TripUpdateField.toField)) (TripUpdateField.decode xs) :=
  fieldLoop_decodesTo_sum tripUpdateBody _ _ _ _ (fun _ h => h.toField) tripUpdateBody_spec {} hxs

/-! ### Vehicle positions -/

/-- A field of a vehicle position as an encoder writes it, without a position: the trip
(field `1`) by the fields of its descriptor, the message of field `2`, which the decoder reads
as the vehicle descriptor, by its fields, or any other field. -/
inductive VehiclePositionField where
  | trip (fs : List Field)
  | vehicle (fs : List Field)
  | plain (f : Field)

namespace VehiclePositionField

/-- The field an encoder writes. -/
def toField : VehiclePositionField → Field
  | trip fs => .len 1 (encodeFields fs)
  | vehicle fs => .len 2 (encodeFields fs)
  | plain f => f

/-- Well formed and without a position: every field valid, a `LEN` field `1` or `2` always a
submessage, and no `LEN` field `3`. -/
def Ok : VehiclePositionField → Prop
  | trip fs | vehicle fs => ∀ f ∈ fs, f.Valid
  | plain f => f.Valid ∧ ¬ (f.wireType = 2 ∧ (f.num = 1 ∨ f.num = 2 ∨ f.num = 3))

instance : DecidablePred Ok
  | trip fs | vehicle fs => inferInstanceAs (Decidable (∀ f ∈ fs, f.Valid))
  | plain f => inferInstanceAs
      (Decidable (f.Valid ∧ ¬ (f.wireType = 2 ∧ (f.num = 1 ∨ f.num = 2 ∨ f.num = 3))))

/-- The fuel the loop of a nested message needs. -/
def fuel : VehiclePositionField → ℕ
  | trip fs | vehicle fs => fs.length + 1
  | plain _ => 0

/-- What `parseVehiclePosition` makes of the field: the trip and the vehicle decoded in their
places, a varint in field `4` as the `timestamp`. -/
def step : VehiclePositionField → VehiclePosition → VehiclePosition
  | trip fs, vp => { vp with trip := decodeTripDescriptor fs }
  | vehicle fs, vp => { vp with vehicle := decodeVehicleDescriptor fs }
  | plain (.varint n v), vp => if n = 4 then { vp with timestamp := some (.fin v) } else vp
  | plain _, vp => vp

/-- The vehicle position the fields of a message decode to. -/
def decode (xs : List VehiclePositionField) : VehiclePosition := xs.foldl (fun o x => x.step o) {}

theorem Ok.toField {x : VehiclePositionField} (hx : x.Ok) : x.toField.Valid := by
  cases x with
  | trip | vehicle => exact ⟨by norm_num, by norm_num⟩
  | plain => exact hx.1

end VehiclePositionField

theorem vehiclePositionBody_spec (u8 : ArrayBuffer) (k : ℕ) :
    BodySpec u8 (vehiclePositionBody u8) VehiclePositionField.toField
      (fun x => x.Ok ∧ x.fuel ≤ k) VehiclePositionField.step k := by
  rintro x p rest vp fuel ⟨hx, hk⟩ hfuel h
  cases x with
  | trip fs =>
    simp only [VehiclePositionField.toField] at h ⊢
    have htd := parseTripDescriptor_decodesTo hx u8 _ rest fuel
      (by simp only [VehiclePositionField.fuel] at hk; omega) (drop_len_bytes h)
    simp [vehiclePositionBody, Field.wireType, lenField_of_drop h, Field.fieldNo_key_of_lt,
      Field.num, htd, VehiclePositionField.step]
  | vehicle fs =>
    simp only [VehiclePositionField.toField] at h ⊢
    have hvd := parseVehicleDescriptor_decodesTo hx u8 _ rest fuel
      (by simp only [VehiclePositionField.fuel] at hk; omega) (drop_len_bytes h)
    simp [vehiclePositionBody, Field.wireType, lenField_of_drop h, Field.fieldNo_key_of_lt,
      Field.num, hvd, VehiclePositionField.step]
  | plain f =>
    simp only [VehiclePositionField.toField] at h ⊢
    obtain ⟨hf, hnest⟩ := hx
    cases f with
    | len n b =>
      simp only [Field.wireType, Field.num, true_and, not_or] at hnest
      simp only [vehiclePositionBody, Field.wireType, if_true, lenField_of_drop h,
        VehiclePositionField.step, hf.fieldNo_eq (m := 1) (by norm_num) (by norm_num),
        hf.fieldNo_eq (m := 2) (by norm_num) (by norm_num),
        hf.fieldNo_eq (m := 3) (by norm_num) (by norm_num), Field.num, Int.toNat_one,
        Int.reduceToNat, hnest.1, hnest.2.1, hnest.2.2, if_false, Outcome.ret_map]
    | varint n v =>
      simp only [vehiclePositionBody, Field.wireType, VehiclePositionField.step,
        hf.fieldNo_eq (m := 4) (by norm_num) (by norm_num), Field.num, Int.reduceToNat,
        and_true, Nat.reduceEqDiff, if_false]
      split_ifs
      · exact varintField_of_drop h hf.2.2 _
      · exact skip_of_drop h hf vp
    | _ =>
      simp only [vehiclePositionBody, Field.wireType, VehiclePositionField.step, and_false,
        if_false, one_ne_zero, OfNat.ofNat_ne_zero, Nat.reduceEqDiff]
      exact skip_of_drop h hf vp

theorem parseVehiclePosition_decodesTo {xs : List VehiclePositionField} (hxs : ∀ x ∈ xs, x.Ok) :
    DecodesTo parseVehiclePosition (xs.length + (xs.map VehiclePositionField.fuel).sum + 1)
      (encodeFields (xs.map VehiclePositionField.toField)) (VehiclePositionField.decode xs) :=
  fieldLoop_decodesTo_sum vehiclePositionBody _ _ _ _ (fun _ h => h.toField)
    vehiclePositionBody_spec {} hxs

/-! ### Entities -/

/-- A field of an entity as an encoder writes it: a trip update (field `3`) or a vehicle
position without a position (field `4`) by its fields, or any other field. -/
inductive EntityField where
  | tripUpdate (xs : List TripUpdateField)
  | vehicle (xs : List VehiclePositionField)
  | plain (f : Field)

namespace EntityField

/-- The field an encoder writes. -/
def toField : EntityField → Field
  | tripUpdate xs => .len 3 (encodeFields (xs.map TripUpdateField.toField))
  | vehicle xs => .len 4 (encodeFields (xs.map VehiclePositionField.toField))
  | plain f => f

/-- Well formed: every field valid, and a `LEN` field `3` or `4` always a submessage. -/
def Ok : EntityField → Prop
  | tripUpdate xs => ∀ x ∈ xs, x.Ok
  | vehicle xs => ∀ x ∈ xs, x.Ok
  | plain f => f.Valid ∧ ¬ (f.wireType = 2 ∧ (f.num = 3 ∨ f.num = 4))

instance : DecidablePred Ok
  | tripUpdate xs => inferInstanceAs (Decidable (∀ x ∈ xs, x.Ok))
  | vehicle xs => inferInstanceAs (Decidable (∀ x ∈ xs, x.Ok))
  | plain f => inferInstanceAs (Decidable (f.Valid ∧ ¬ (f.wireType = 2 ∧ (f.num = 3 ∨ f.num = 4))))

/-- The fuel the loop of a nested message needs. -/
def fuel : EntityField → ℕ
  | tripUpdate xs => xs.length + (xs.map TripUpdateField.fuel).sum + 1
  | vehicle xs => xs.length + (xs.map VehiclePositionField.fuel).sum + 1
  | plain _ => 0

/-- What `parseEntity` makes of the field: the trip update and the vehicle position decoded in
their places, the bytes of a `LEN` field `1` as the `id`. -/
def step : EntityField → FeedEntity → FeedEntity
  | tripUpdate xs, e => { e with trip_update := some (TripUpdateField.decode xs) }
  | vehicle xs, e => { e with vehicle := some (VehiclePositionField.decode xs) }
  | plain (.len n b), e => if n = 1 then { e with id := some b } else e
  | plain _, e => e

/-- The entity the fields of a message decode to. -/
def decode (xs : List EntityField) : FeedEntity := xs.foldl (fun o x => x.step o) {}

theorem Ok.toField {x : EntityField} (hx : x.Ok) : x.toField.Valid := by
  cases x with
  | tripUpdate | vehicle => exact ⟨by norm_num, by norm_num⟩
  | plain => exact hx.1

end EntityField

theorem entityBody_spec (u8 : ArrayBuffer) (k : ℕ) :
    BodySpec u8 (entityBody u8) EntityField.toField (fun x => x.Ok ∧ x.fuel ≤ k)
      EntityField.step k := by
  rintro x p rest ent fuel ⟨hx, hk⟩ hfuel h
  cases x with
  | tripUpdate xs =>
    simp only [EntityField.toField] at h ⊢
    have htu := parseTripUpdate_decodesTo hx u8 _ rest fuel
      (by simp only [EntityField.fuel] at hk; omega) (drop_len_bytes h)
    simp [entityBody, Field.wireType, lenField_of_drop h, Field.fieldNo_key_of_lt, Field.num, htu,
      EntityField.step]
  | vehicle xs =>
    simp only [EntityField.toField] at h ⊢
    have hvp := parseVehiclePosition_decodesTo hx u8 _ rest fuel
      (by simp only [EntityField.fuel] at hk; omega) (drop_len_bytes h)
    simp [entityBody, Field.wireType, lenField_of_drop h, Field.fieldNo_key_of_lt, Field.num, hvp,
      EntityField.step]
  | plain f =>
    simp only [EntityField.toField] at h ⊢
    obtain ⟨hf, hnest⟩ := hx
    cases f with
    | len n b =>
      simp only [Field.wireType, Field.num, true_and, not_or] at hnest
      simp only [entityBody, Field.wireType, if_true, lenField_of_drop h,
        ArrayBuffer.subarray_of_drop (drop_len_bytes h), EntityField.step,
        hf.fieldNo_eq (m := 1) (by norm_num) (by norm_num),
        hf.fieldNo_eq (m := 3) (by norm_num) (by norm_num),
        hf.fieldNo_eq (m := 4) (by norm_num) (by norm_num), Field.num, Int.toNat_one,
        Int.reduceToNat, hnest.1, hnest.2, if_false]
      split_ifs <;> rfl
    | _ => exact skip_of_drop h hf ent

/-- **Every encoded entity without a position decodes wherever it sits**: at every offset of
every buffer, whatever follows it, `parseEntity` returns the fold of its fields' steps. -/
theorem parseEntity_decodesTo {xs : List EntityField} (hxs : ∀ x ∈ xs, x.Ok) :
    DecodesTo parseEntity (xs.length + (xs.map EntityField.fuel).sum + 1)
      (encodeFields (xs.map EntityField.toField)) (EntityField.decode xs) :=
  fieldLoop_decodesTo_sum entityBody _ _ _ _ (fun _ h => h.toField) entityBody_spec {} hxs

end Transit
