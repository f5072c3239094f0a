import Transit.Api.Termination

/-!
# The floats of `parsePosition`

`parsePosition` reads each float through a fresh view: `new DataView(u8.buffer,
u8.byteOffset + pos, 4).getFloat32(pos, true)`.  The view starts at `pos` and is four bytes
long, and `getFloat32(pos)` reads at offset `pos` within it, which fits only when `pos` is `0`.
After a key `pos` never is: every float field throws a `RangeError`.

So `parsePosition` returns only positions without a float, and a decoded feed never reports a
latitude, a longitude, a bearing or a speed.

## Main results

* `getFloat32At_error` — the read throws at every cursor after a key.
* `parsePosition_latitudeOnly` — the position `{ latitude: 45.5 }` throws.
* `parsePosition_ret` — `parsePosition` returns only the empty position.
* `parseFeedMessage_position_empty` — no vehicle of a decoded feed has a coordinate.
-/

namespace Transit

/-- **The float read throws at every cursor after a key**: the constructor when the four bytes
do not fit in the buffer, and `getFloat32` when they do. -/
theorem getFloat32At_error (u8 : ArrayBuffer) {pos : Num} (h : .fin 0 < pos) :
    ∃ e, getFloat32At u8 pos = .error e := by
  cases pos with
  | fin p =>
    simp only [Num.fin_lt_fin] at h
    simp only [getFloat32At]
    split_ifs <;> first | exact ⟨_, rfl⟩ | omega
  | inf => exact ⟨_, rfl⟩

/-- A Position `{ latitude: 45.5 }`: field `1`, wire type `5`, the float `0x42360000`. -/
def latitudeOnly : ArrayBuffer := ⟨[0x0d, 0x00, 0x00, 0x36, 0x42], by decide⟩

/-- At the start of the buffer, `parsePosition` throws on it instead of returning the
latitude. -/
theorem parsePosition_latitudeOnly (n : ℕ) :
    parsePosition (n + 1) latitudeOnly (.fin 0) (.fin 5) = .error dataViewRangeError :=
  rfl

/-- An iteration of `parsePosition` returns only over a field it skips, leaving the position
as it was. -/
theorem positionBody_iteration {u8 : ArrayBuffer} {fuel : ℕ} {pos : Num} {p : Position}
    {r : Num × Position} (h : iteration u8 (positionBody u8) fuel pos p = .ret r) : r.2 = p := by
  obtain ⟨e, hf⟩ := getFloat32At_error u8 (zero_lt_readVarint_next u8 pos)
  simp only [iteration, positionBody, float32Field, hf, Outcome.error_map] at h
  split_ifs at h
  cases h
  rfl

/-- **`parsePosition` returns only the empty position.** -/
theorem parsePosition_ret {fuel : ℕ} {u8 : ArrayBuffer} {start stop : Num} {p : Position}
    (h : parsePosition fuel u8 start stop = .ret p) : p = {} :=
  fieldLoop_inv u8 (I := fun q : Position => q = {})
    (fun _ _ _ _ hi hr => (positionBody_iteration hr).trans hi) fuel start {} p rfl h

/-- So does every vehicle position. -/
theorem parseVehiclePosition_ret {fuel : ℕ} {u8 : ArrayBuffer} {start stop : Num}
    {vp : VehiclePosition} (h : parseVehiclePosition fuel u8 start stop = .ret vp) :
    vp.position = {} := by
  refine fieldLoop_inv u8 (I := fun v : VehiclePosition => v.position = {})
    (fun fuel pos obj r hi hr => ?_) fuel start {} vp rfl h
  simp only [iteration, vehiclePositionBody, lenField, varintField, skip] at hr
  split_ifs at hr <;> simp only [Outcome.ret_map, Outcome.map_eq_ret, Outcome.ret.injEq] at hr
  all_goals first
    | (obtain rfl := hr; exact hi)
    | (obtain ⟨_, ⟨b, hb, rfl⟩, rfl⟩ := hr; first | exact hi | exact parsePosition_ret hb)

/-- And every vehicle of an entity. -/
theorem parseEntity_ret {fuel : ℕ} {u8 : ArrayBuffer} {start stop : Num} {e : FeedEntity}
    (h : parseEntity fuel u8 start stop = .ret e) :
    ∀ vp, e.vehicle = some vp → vp.position = {} := by
  refine fieldLoop_inv u8
    (I := fun e : FeedEntity => ∀ vp, e.vehicle = some vp → vp.position = {})
    (fun fuel pos obj r hi hr => ?_) fuel start {} e (fun _ h => nomatch h) h
  simp only [iteration, entityBody, lenField, skip] at hr
  split_ifs at hr <;> simp only [Outcome.ret_map, Outcome.map_eq_ret, Outcome.ret.injEq] at hr
  all_goals first
    | (obtain rfl := hr; exact hi)
    | (obtain ⟨_, ⟨b, hb, rfl⟩, rfl⟩ := hr
       first
         | exact hi
         | exact fun vp hv => Option.some.inj hv ▸ parseVehiclePosition_ret hb)

/-- **No vehicle of a decoded feed has a latitude, a longitude, a bearing or a speed.** -/
theorem parseFeedMessage_position_empty {fuel : ℕ} {ab : ArrayBuffer} {feed : FeedMessage}
    (h : parseFeedMessage fuel ab = .ret feed) :
    ∀ e ∈ feed.entity, ∀ vp, e.vehicle = some vp → vp.position = {} := by
  refine fieldLoop_inv ab (I := fun feed : FeedMessage =>
      ∀ e ∈ feed.entity, ∀ vp, e.vehicle = some vp → vp.position = {})
    (fun fuel pos obj r hi hr => ?_) fuel _ {} feed (fun _ h => nomatch h) h
  simp only [iteration, feedMessageBody, lenField, skip] at hr
  split_ifs at hr <;> simp only [Outcome.ret_map, Outcome.map_eq_ret, Outcome.ret.injEq] at hr
  all_goals first
    | (obtain rfl := hr; exact hi)
    | (obtain ⟨_, ⟨b, hb, rfl⟩, rfl⟩ := hr
       first
         | exact hi
         | exact fun e he => (List.mem_append.1 he).elim (hi e) fun he' =>
             List.mem_singleton.1 he' ▸ parseEntity_ret hb)

end Transit
