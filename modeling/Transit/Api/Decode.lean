import Transit.Wire.Encode

/-!
# The API worker's decoder

`parseFeedMessage` decodes a whole feed on the hot path: the header timestamp, and for each
entity its id and either a trip update or a vehicle position, through seven nested parsers.
Each is a message loop over its own range `[start, end)` of the one buffer, and each nests the
next at the loop's remaining fuel.

The field numbers are the source's.  Strings are kept as the bytes handed to
`new TextDecoder().decode`, and floats as the 32-bit patterns `getFloat32` decodes.  An object
the source starts as `{}` and one it starts with `null` fields are both modelled with every
field absent.

`parsePosition` reads its floats through `new DataView(u8.buffer, u8.byteOffset + pos, 4)
.getFloat32(pos, true)`: a view that starts at `pos`, read at offset `pos` within it.  Both
steps check their bounds, so the read throws a `RangeError` unless `pos` is `0`.

## Main definitions

* `TripDescriptor`, `StopTimeEvent`, `StopTimeUpdate`, `TripUpdate`, `VehicleDescriptor`,
  `Position`, `VehiclePosition`, `FeedEntity`, `FeedMessage` — the objects the parsers build.
* `parseTripDescriptor`, ..., `parseEntity`, `parseFeedMessage` — the parsers.

## Main results

* `parseFeedMessage_mono` — the decoder is monotone in its fuel.
* `parseFeedMessage_tripFeed`, `parseFeedMessage_vehicleFeed` — what it makes of a standard
  trip update and a standard vehicle position.
-/

namespace Transit

/-! ### What the parsers build -/

/-- A string field, by the bytes `new TextDecoder().decode` is given. -/
abbrev Utf8 := List UInt8

/-- An IEEE-754 single, by its bit pattern. -/
structure F32 where
  bits : UInt32
  deriving DecidableEq, Repr

structure TripDescriptor where
  trip_id : Option Utf8 := none
  route_id : Option Utf8 := none
  deriving DecidableEq, Repr

structure StopTimeEvent where
  delay : Option Num := none
  time : Option Num := none
  deriving DecidableEq, Repr

structure StopTimeUpdate where
  stop_id : Option Utf8 := none
  stop_sequence : Option Num := none
  arrival : StopTimeEvent := {}
  departure : StopTimeEvent := {}
  deriving DecidableEq, Repr

structure TripUpdate where
  trip : TripDescriptor := {}
  stop_time_update : List StopTimeUpdate := []
  deriving DecidableEq, Repr

structure VehicleDescriptor where
  id : Option Utf8 := none
  deriving DecidableEq, Repr

structure Position where
  latitude : Option F32 := none
  longitude : Option F32 := none
  bearing : Option F32 := none
  speed : Option F32 := none
  deriving DecidableEq, Repr

structure VehiclePosition where
  trip : TripDescriptor := {}
  vehicle : VehicleDescriptor := {}
  position : Position := {}
  timestamp : Option Num := none
  deriving DecidableEq, Repr

structure FeedEntity where
  id : Option Utf8 := none
  trip_update : Option TripUpdate := none
  vehicle : Option VehiclePosition := none
  deriving DecidableEq, Repr

structure FeedHeader where
  timestamp : Option Num := none
  deriving DecidableEq, Repr

structure FeedMessage where
  header : FeedHeader := {}
  entity : List FeedEntity := []
  deriving DecidableEq, Repr

/-! ### Reading one field -/

namespace ArrayBuffer

/-- A cursor clamped to the buffer, as `subarray` clamps its arguments. -/
def clamp (u8 : ArrayBuffer) : Num → ℕ
  | .fin n => min n u8.data.length
  | .inf => u8.data.length

/-- `u8.subarray(start, end)`. -/
def subarray (u8 : ArrayBuffer) (start stop : Num) : List UInt8 :=
  (u8.data.drop (u8.clamp start)).take (u8.clamp stop - u8.clamp start)

end ArrayBuffer

/-- What `getFloat32` throws when the read does not fit in the view. -/
def dataViewRangeError : JsError := ⟨"RangeError", "Offset is outside the bounds of the DataView"⟩

/-- What the `DataView` constructor throws when its start offset, written as JavaScript writes
the number, lies past the buffer. -/
def startOffsetError (offset : String) : JsError :=
  ⟨"RangeError", "Start offset " ++ offset ++ " is outside the bounds of the buffer"⟩

/-- What the `DataView` constructor throws when its four bytes run past the buffer. -/
def dataViewLengthError : JsError := ⟨"RangeError", "Invalid DataView length 4"⟩

/-- The value of little-endian bytes. -/
def leValue : List UInt8 → ℕ
  | [] => 0
  | b :: bs => b.toNat + 256 * leValue bs

/-- `new DataView(u8.buffer, u8.byteOffset + pos, 4).getFloat32(pos, true)`, over a buffer
with `byteOffset` `0`: the constructor throws when `pos` lies past the buffer or the four bytes
from `pos` do not fit in it, and `getFloat32` throws unless `pos + 4` is within the view's
length `4`; it then reads the view's bytes `pos ..`, which are the buffer's bytes
`pos + pos ..`.  An offset is written in decimal, as JavaScript writes every integer below
`10 ^ 21`. -/
def getFloat32At (u8 : ArrayBuffer) : Num → Outcome F32
  | .fin p =>
    if u8.data.length < p then .error (startOffsetError (toString p))
    else if u8.data.length < p + 4 then .error dataViewLengthError
    else if 4 < p + 4 then .error dataViewRangeError
    else .ret ⟨UInt32.ofNat (leValue ((u8.data.drop (p + p)).take 4))⟩
  | .inf => .error (startOffsetError "Infinity")

section Fields

variable {α : Type} (u8 : ArrayBuffer) (pos : Num)

/-- A length-delimited field: `{ value: len, next: next2 } = readVarint(u8, pos)`, `k` gets
`[next2, next2 + len)`, and the cursor moves to `next2 + len`. -/
def lenField (k : Num → Num → Outcome α) : Outcome (Num × α) :=
  let r := readVarint u8 pos
  (k r.next (r.next + r.value)).map fun a => (r.next + r.value, a)

/-- A varint field: `r = readVarint(u8, pos)`, `k` gets `r.value`, the cursor moves to
`r.next`. -/
def varintField (k : Num → α) : Outcome (Num × α) :=
  let r := readVarint u8 pos
  .ret (r.next, k r.value)

/-- A float field of `parsePosition`: `k` gets the float, and `pos += 4`. -/
def float32Field (k : F32 → α) : Outcome (Num × α) :=
  (getFloat32At u8 pos).map fun f => (pos + .fin 4, k f)

/-- Every other field: `pos = skipField(u8, pos, wireType)`. -/
def skip (wireType : ℕ) (obj : α) : Outcome (Num × α) := .ret (skipField u8 pos wireType, obj)

theorem lenField_mono {k : ℕ → Num → Num → Outcome α} (hk : ∀ s e, FuelMono fun n => k n s e) :
    FuelMono fun n => lenField u8 pos (k n) :=
  (hk _ _).map _

end Fields

/-! ### The parsers, innermost first -/

/-- The body of `parseTripDescriptor`: field `1` is `trip_id`, field `3` `route_id`. -/
def tripDescriptorBody (u8 : ArrayBuffer) : FieldBody TripDescriptor :=
  fun _ fieldNo wireType pos td =>
    if wireType = 2 then
      lenField u8 pos fun s e =>
        let str := u8.subarray s e
        .ret (if fieldNo = 1 then { td with trip_id := some str }
          else if fieldNo = 3 then { td with route_id := some str } else td)
    else skip u8 pos wireType td

def parseTripDescriptor (fuel : ℕ) (u8 : ArrayBuffer) (start stop : Num) : Outcome TripDescriptor :=
  fieldLoop u8 stop (tripDescriptorBody u8) fuel start {}

/-- The body of `parseVehicleDescriptor`: field `1` is `id`. -/
def vehicleDescriptorBody (u8 : ArrayBuffer) : FieldBody VehicleDescriptor :=
  fun _ fieldNo wireType pos vd =>
    if wireType = 2 then
      lenField u8 pos fun s e =>
        .ret (if fieldNo = 1 then { vd with id := some (u8.subarray s e) } else vd)
    else skip u8 pos wireType vd

def parseVehicleDescriptor (fuel : ℕ) (u8 : ArrayBuffer) (start stop : Num) :
    Outcome VehicleDescriptor :=
  fieldLoop u8 stop (vehicleDescriptorBody u8) fuel start {}

/-- The body of `parsePosition`: fields `1` to `4` of wire type `5` are latitude, longitude,
bearing and speed. -/
def positionBody (u8 : ArrayBuffer) : FieldBody Position :=
  fun _ fieldNo wireType pos p =>
    if fieldNo = 1 ∧ wireType = 5 then float32Field u8 pos fun f => { p with latitude := some f }
    else if fieldNo = 2 ∧ wireType = 5 then float32Field u8 pos fun f => { p with longitude := some f }
    else if fieldNo = 3 ∧ wireType = 5 then float32Field u8 pos fun f => { p with bearing := some f }
    else if fieldNo = 4 ∧ wireType = 5 then float32Field u8 pos fun f => { p with speed := some f }
    else skip u8 pos wireType p

def parsePosition (fuel : ℕ) (u8 : ArrayBuffer) (start stop : Num) : Outcome Position :=
  fieldLoop u8 stop (positionBody u8) fuel start {}

/-- The body of `parseStopTimeEvent`: varints in field `1` and `2` are `delay` and `time`. -/
def stopTimeEventBody (u8 : ArrayBuffer) : FieldBody StopTimeEvent :=
  fun _ fieldNo wireType pos ste =>
    if fieldNo = 1 ∧ wireType = 0 then varintField u8 pos fun v => { ste with delay := some v }
    else if fieldNo = 2 ∧ wireType = 0 then varintField u8 pos fun v => { ste with time := some v }
    else skip u8 pos wireType ste

def parseStopTimeEvent (fuel : ℕ) (u8 : ArrayBuffer) (start stop : Num) : Outcome StopTimeEvent :=
  fieldLoop u8 stop (stopTimeEventBody u8) fuel start {}

/-- The body of `parseStopTimeUpdate`: field `1` is `stop_id`, `2` and `3` the arrival and
departure events, a varint in field `4` the `stop_sequence`. -/
def stopTimeUpdateBody (u8 : ArrayBuffer) : FieldBody StopTimeUpdate :=
  fun fuel fieldNo wireType pos stu =>
    if wireType = 2 then
      lenField u8 pos fun s e =>
        if fieldNo = 1 then .ret { stu with stop_id := some (u8.subarray s e) }
        else if fieldNo = 2 then
          (parseStopTimeEvent fuel u8 s e).map fun ev => { stu with arrival := ev }
        else if fieldNo = 3 then
          (parseStopTimeEvent fuel u8 s e).map fun ev => { stu with departure := ev }
        else .ret stu
    else if fieldNo = 4 ∧ wireType = 0 then
      varintField u8 pos fun v => { stu with stop_sequence := some v }
    else skip u8 pos wireType stu

def parseStopTimeUpdate (fuel : ℕ) (u8 : ArrayBuffer) (start stop : Num) :
    Outcome StopTimeUpdate :=
  fieldLoop u8 stop (stopTimeUpdateBody u8) fuel start {}

/-- The body of `parseTripUpdate`: field `1` is the trip, each field `2` a stop time update. -/
def tripUpdateBody (u8 : ArrayBuffer) : FieldBody TripUpdate :=
  fun fuel fieldNo wireType pos tu =>
    if wireType = 2 then
      lenField u8 pos fun s e =>
        if fieldNo = 1 then (parseTripDescriptor fuel u8 s e).map fun td => { tu with trip := td }
        else if fieldNo = 2 then
          (parseStopTimeUpdate fuel u8 s e).map fun stu =>
            { tu with stop_time_update := tu.stop_time_update ++ [stu] }
        else .ret tu
    else skip u8 pos wireType tu

def parseTripUpdate (fuel : ℕ) (u8 : ArrayBuffer) (start stop : Num) : Outcome TripUpdate :=
  fieldLoop u8 stop (tripUpdateBody u8) fuel start {}

/-- The body of `parseVehiclePosition`: fields `1`, `2` and `3` are the trip, the vehicle
and the position, a varint in field `4` the timestamp. -/
def vehiclePositionBody (u8 : ArrayBuffer) : FieldBody VehiclePosition :=
  fun fuel fieldNo wireType pos vp =>
    if wireType = 2 then
      lenField u8 pos fun s e =>
        if fieldNo = 1 then (parseTripDescriptor fuel u8 s e).map fun td => { vp with trip := td }
        else if fieldNo = 2 then
          (parseVehicleDescriptor fuel u8 s e).map fun vd => { vp with vehicle := vd }
        else if fieldNo = 3 then
          (parsePosition fuel u8 s e).map fun p => { vp with position := p }
        else .ret vp
    else if fieldNo = 4 ∧ wireType = 0 then
      varintField u8 pos fun v => { vp with timestamp := some v }
    else skip u8 pos wireType vp

def parseVehiclePosition (fuel : ℕ) (u8 : ArrayBuffer) (start stop : Num) :
    Outcome VehiclePosition :=
  fieldLoop u8 stop (vehiclePositionBody u8) fuel start {}

/-- The body of `parseEntity`: field `1` is the id, `3` a trip update, `4` a vehicle
position. -/
def entityBody (u8 : ArrayBuffer) : FieldBody FeedEntity :=
  fun fuel fieldNo wireType pos ent =>
    if wireType = 2 then
      lenField u8 pos fun s e =>
        if fieldNo = 1 then .ret { ent with id := some (u8.subarray s e) }
        else if fieldNo = 3 then
          (parseTripUpdate fuel u8 s e).map fun tu => { ent with trip_update := some tu }
        else if fieldNo = 4 then
          (parseVehiclePosition fuel u8 s e).map fun vp => { ent with vehicle := some vp }
        else .ret ent
    else skip u8 pos wireType ent

def parseEntity (fuel : ℕ) (u8 : ArrayBuffer) (start stop : Num) : Outcome FeedEntity :=
  fieldLoop u8 stop (entityBody u8) fuel start {}

/-- The body of `parseFeedMessage`: field `1` is the header, whose timestamp replaces the one
held, and each field `2` an entity. -/
def feedMessageBody (u8 : ArrayBuffer) : FieldBody FeedMessage :=
  fun fuel fieldNo wireType pos feed =>
    if wireType = 2 then
      lenField u8 pos fun s e =>
        if fieldNo = 1 then
          (parseHeaderTimestamp fuel u8 s e).map fun ts => { feed with header := ⟨ts⟩ }
        else if fieldNo = 2 then
          (parseEntity fuel u8 s e).map fun ent => { feed with entity := feed.entity ++ [ent] }
        else .ret feed
    else skip u8 pos wireType feed

/-- `parseFeedMessage(ab)`: the top-level loop over the whole buffer. -/
def parseFeedMessage (fuel : ℕ) (ab : ArrayBuffer) : Outcome FeedMessage :=
  fieldLoop ab ab.length (feedMessageBody ab) fuel (.fin 0) {}

/-! ### Fuel -/

section Mono

variable (u8 : ArrayBuffer) (start stop : Num)

theorem parseTripDescriptor_mono : FuelMono fun n => parseTripDescriptor n u8 start stop :=
  fieldLoop_mono u8 stop (tripDescriptorBody u8) (fun _ _ _ _ => FuelMono.const _) start {}

theorem parseVehicleDescriptor_mono : FuelMono fun n => parseVehicleDescriptor n u8 start stop :=
  fieldLoop_mono u8 stop (vehicleDescriptorBody u8) (fun _ _ _ _ => FuelMono.const _) start {}

theorem parsePosition_mono : FuelMono fun n => parsePosition n u8 start stop :=
  fieldLoop_mono u8 stop (positionBody u8) (fun _ _ _ _ => FuelMono.const _) start {}

theorem parseStopTimeEvent_mono : FuelMono fun n => parseStopTimeEvent n u8 start stop :=
  fieldLoop_mono u8 stop (stopTimeEventBody u8) (fun _ _ _ _ => FuelMono.const _) start {}

theorem stopTimeUpdateBody_mono : BodyMono (stopTimeUpdateBody u8) := by
  intro fno wt pos stu
  simp only [stopTimeUpdateBody]
  split_ifs
  all_goals first
    | exact FuelMono.const _
    | exact lenField_mono u8 pos fun s e => (parseStopTimeEvent_mono u8 s e).map _

theorem parseStopTimeUpdate_mono : FuelMono fun n => parseStopTimeUpdate n u8 start stop :=
  fieldLoop_mono u8 stop _ (stopTimeUpdateBody_mono u8) start {}

theorem tripUpdateBody_mono : BodyMono (tripUpdateBody u8) := by
  intro fno wt pos tu
  simp only [tripUpdateBody]
  split_ifs
  all_goals first
    | exact FuelMono.const _
    | exact lenField_mono u8 pos fun s e => (parseTripDescriptor_mono u8 s e).map _
    | exact lenField_mono u8 pos fun s e => (parseStopTimeUpdate_mono u8 s e).map _

theorem parseTripUpdate_mono : FuelMono fun n => parseTripUpdate n u8 start stop :=
  fieldLoop_mono u8 stop _ (tripUpdateBody_mono u8) start {}

theorem vehiclePositionBody_mono : BodyMono (vehiclePositionBody u8) := by
  intro fno wt pos vp
  simp only [vehiclePositionBody]
  split_ifs
  all_goals first
    | exact FuelMono.const _
    | exact lenField_mono u8 pos fun s e => (parseTripDescriptor_mono u8 s e).map _
    | exact lenField_mono u8 pos fun s e => (parseVehicleDescriptor_mono u8 s e).map _
    | exact lenField_mono u8 pos fun s e => (parsePosition_mono u8 s e).map _

theorem parseVehiclePosition_mono : FuelMono fun n => parseVehiclePosition n u8 start stop :=
  fieldLoop_mono u8 stop _ (vehiclePositionBody_mono u8) start {}

theorem entityBody_mono : BodyMono (entityBody u8) := by
  intro fno wt pos ent
  simp only [entityBody]
  split_ifs
  all_goals first
    | exact FuelMono.const _
    | exact lenField_mono u8 pos fun s e => (parseTripUpdate_mono u8 s e).map _
    | exact lenField_mono u8 pos fun s e => (parseVehiclePosition_mono u8 s e).map _

theorem parseEntity_mono : FuelMono fun n => parseEntity n u8 start stop :=
  fieldLoop_mono u8 stop _ (entityBody_mono u8) start {}

theorem feedMessageBody_mono : BodyMono (feedMessageBody u8) := by
  intro fno wt pos feed
  simp only [feedMessageBody]
  split_ifs
  all_goals first
    | exact FuelMono.const _
    | exact lenField_mono u8 pos fun s e => (parseHeaderTimestamp_mono u8 s e).map _
    | exact lenField_mono u8 pos fun s e => (parseEntity_mono u8 s e).map _

end Mono

theorem parseFeedMessage_mono (ab : ArrayBuffer) : FuelMono fun n => parseFeedMessage n ab :=
  fieldLoop_mono ab _ _ (feedMessageBody_mono ab) _ _

/-! ### Standard feeds -/

/-- A trip-update feed as a standard encoder writes `gtfs-realtime.proto`: a header with
`gtfs_realtime_version` `"2.0"`, and one entity `"1"` whose trip update has the trip
`{ trip_id: "t", route_id: "r" }` (fields `1` and `5`) and one stop time update
`{ stop_sequence: 1, arrival: { delay: -60 }, stop_id: "s" }` (fields `1`, `2` and `4`); the
delay, an `int32`, is the ten-byte varint of `2 ^ 64 - 60`. -/
def tripFeed : ArrayBuffer :=
  ⟨[0x0a, 0x05, 0x0a, 0x03, 0x32, 0x2e, 0x30,
    0x12, 0x21, 0x0a, 0x01, 0x31, 0x1a, 0x1c,
      0x0a, 0x06, 0x0a, 0x01, 0x74, 0x2a, 0x01, 0x72,
      0x12, 0x12, 0x08, 0x01, 0x12, 0x0b,
        0x08, 0xc4, 0xff, 0xff, 0xff, 0xff, 0xff, 0xff, 0xff, 0xff, 0x01,
        0x22, 0x01, 0x73], by decide⟩

/-- On that feed the decoder returns the trip id, but no route id (it reads field `3`, which
is `start_date`), no stop id and no stop sequence (it reads them from fields `1` and `4`, the
other way round), and the delay `-60` as `2 ^ 64`, the double nearest `2 ^ 64 - 60`. -/
theorem parseFeedMessage_tripFeed : Returns (parseFeedMessage · tripFeed)
    { header := ⟨none⟩
      entity :=
        [{ id := some [0x31]
           trip_update := some
             { trip := { trip_id := some [0x74] }
               stop_time_update :=
                 [{ arrival := { delay := some (.fin 18446744073709551616) } }] } }] } :=
  Returns.of_mono (parseFeedMessage_mono tripFeed) (n := 10) (by decide)

/-- A vehicle-position feed as a standard encoder writes `gtfs-realtime.proto`: a header, and
one entity `"v"` whose vehicle position has the trip `{ trip_id: "t" }` (field `1`), the
position `{ latitude: 45.5, longitude: -73.6 }` (field `2`, floats `0x42360000` and
`0xc2933333`), `current_status` `2` (field `4`), the timestamp `1700000000` (field `5`) and
the vehicle `{ id: "42" }` (field `8`). -/
def vehicleFeed : ArrayBuffer :=
  ⟨[0x0a, 0x05, 0x0a, 0x03, 0x32, 0x2e, 0x30,
    0x12, 0x24, 0x0a, 0x01, 0x76, 0x22, 0x1f,
      0x0a, 0x03, 0x0a, 0x01, 0x74,
      0x12, 0x0a, 0x0d, 0x00, 0x00, 0x36, 0x42, 0x15, 0x33, 0x33, 0x93, 0xc2,
      0x20, 0x02,
      0x28, 0x80, 0xe2, 0xcf, 0xaa, 0x06,
      0x42, 0x04, 0x0a, 0x02, 0x34, 0x32], by decide⟩

/-- On that feed the decoder returns the trip id, but reads the position (field `2`) as the
vehicle descriptor, so no vehicle id, never sees a position, so no coordinates, and takes
`current_status` (field `4`) for the timestamp. -/
theorem parseFeedMessage_vehicleFeed : Returns (parseFeedMessage · vehicleFeed)
    { header := ⟨none⟩
      entity :=
        [{ id := some [0x76]
           vehicle := some { trip := { trip_id := some [0x74] }, timestamp := some (.fin 2) } }] } :=
  Returns.of_mono (parseFeedMessage_mono vehicleFeed) (n := 10) (by decide)

end Transit
