import Transit.Api.HotList
import Transit.Api.Position

/-!
# The hot-path handlers

`/api/v1/rt/current`, `/api/v1/rt/positions` and `/api/v1/rt/geojson/positions` answer from
the newest snapshot of the hot window: `listHotRTFiles(...)[0]`, read from the
bucket and decoded with `parseFeedMessage`.  Each flattens the feed with a loop that pushes one
row per entity (or per stop time update) passing its filters, where a filter is active when its
query parameter is truthy.

The trip-update rows are the feed's stop time updates, in order, and a filtered response is the
unfiltered one restricted to the matching rows; the same holds of the vehicle positions.  The
GeoJSON view keeps a vehicle when its latitude and longitude are truthy, which drops a reported
`0`; but no decoded vehicle reports a coordinate at all (`parseFeedMessage_position_empty`), so
the two position views agree on every snapshot the decoder produces.

Strings are decoded by `new TextDecoder().decode`, a parameter `decode` of the handlers.

## Main definitions

* `SearchParams`, `truthy` — the query, and when a filter is active.
* `readHotRTFile` — the bytes of an object of the bucket.
* `hotBucket` — a bucket holding a trip-update and a vehicle-position snapshot.
* `tripUpdateRows`, `positionRows`, `geoJSONFeatures` — the handlers' loops.
* `handleCurrentTripUpdates`, `handleCurrentPositions`, `handleGeoJSONPositions`.

## Main results

* `tripUpdateRows_eq`, `positionRows_eq` — the loops flatten the feed.
* `listHotRTFiles_read` — with distinct keys, the first file listed reads as its object's body.
* `hot_responses_filter` — the responses are the flattening of the newest snapshot, and a
  filtered response is the unfiltered one restricted.
* `geoJSONFeatures_eq` — the GeoJSON features are the rows with truthy coordinates.
* `geoJSON_agrees` — the GeoJSON view is the position view's rows with coordinates.
-/

namespace Transit

/-! ### Requests -/

/-- `url.searchParams`: the query's name-value pairs, in order. -/
abbrev SearchParams := List (String × String)

/-- `url.searchParams.get(name)`: the first value given to `name`, or `null`. -/
def SearchParams.get (url : SearchParams) (name : String) : Option String :=
  (url.find? fun p => p.1 = name).map Prod.snd

/-- `url.searchParams.get('provider') || 'stm'`. -/
def SearchParams.provider (url : SearchParams) : String :=
  match url.get "provider" with
  | some s => if s = "" then "stm" else s
  | none => "stm"

/-- JavaScript truthiness of a query value: `null` and `''` are falsy. -/
def truthy : Option String → Bool
  | some s => s != ""
  | none => false

/-- `readHotRTFile(env, key)`: the bytes of the object under `key`, or `null` when there is
none.  A body of `2 ^ 53` bytes or more, which no `ArrayBuffer` can hold, is not read either. -/
def readHotRTFile (bucket : List R2Object) (key : R2Key) : Option ArrayBuffer :=
  (bucket.find? fun o => o.key = key).bind fun o =>
    if h : o.body.length < 2 ^ 53 then some ⟨o.body, h⟩ else none

/-- What a hot-path handler answers: no file in the window (`{ <rows>: [], message }`), an
`errorResponse`, or the rows and the feed's `header.timestamp`. -/
inductive HotReply (α : Type) where
  | noRecent (message : String)
  | failed (status : ℕ) (error : String)
  | rows (rows : List α) (feed_timestamp : Option Num)
  deriving DecidableEq, Repr

/-- The reply with only the rows that `keep` accepts, in order. -/
def HotReply.restrict {α : Type} (keep : α → Bool) : HotReply α → HotReply α
  | .rows rs ts => .rows (rs.filter keep) ts
  | r => r

/-! ### Trip updates -/

/-- A row of `trip_updates`. -/
structure TripUpdateRow where
  trip_id : Option String
  route_id : Option String
  stop_id : Option String
  stop_sequence : Option Num
  arrival_delay : Option Num
  departure_delay : Option Num
  arrival_time : Option Num
  departure_time : Option Num
  deriving DecidableEq, Repr

/-- The row pushed for a stop time update of a trip update. -/
def tripUpdateRow (decode : Utf8 → String) (tu : TripUpdate) (stu : StopTimeUpdate) :
    TripUpdateRow :=
  ⟨tu.trip.trip_id.map decode, tu.trip.route_id.map decode, stu.stop_id.map decode,
    stu.stop_sequence, stu.arrival.delay, stu.departure.delay, stu.arrival.time,
    stu.departure.time⟩

/-- One iteration of the inner loop of `handleCurrentTripUpdates`: a stop time update
passing the stop filter pushes its row. -/
def stopTimeStep (decode : Utf8 → String) (stopId : Option String) (tu : TripUpdate)
    (acc : List TripUpdateRow) (stu : StopTimeUpdate) : List TripUpdateRow :=
  if truthy stopId && stu.stop_id.map decode != stopId then acc
  else acc ++ [tripUpdateRow decode tu stu]

/-- One iteration of the outer loop: an entity without a trip update, or failing the route
filter, is skipped; otherwise the inner loop runs over its stop time updates. -/
def tripUpdateStep (decode : Utf8 → String) (routeId stopId : Option String)
    (acc : List TripUpdateRow) (entity : FeedEntity) : List TripUpdateRow :=
  match entity.trip_update with
  | none => acc
  | some tu =>
    if truthy routeId && tu.trip.route_id.map decode != routeId then acc
    else tu.stop_time_update.foldl (stopTimeStep decode stopId tu) acc

/-- The loop of `handleCurrentTripUpdates`, from `tripUpdates = []`. -/
def tripUpdateRows (decode : Utf8 → String) (routeId stopId : Option String)
    (feed : FeedMessage) : List TripUpdateRow :=
  feed.entity.foldl (tripUpdateStep decode routeId stopId) []

/-- `handleCurrentTripUpdates(req, env, url)` at instant `now`: the rows of the newest trip
updates snapshot of the provider; the decoder's fuel is `fuel`. -/
def handleCurrentTripUpdates (decode : Utf8 → String) (fuel : ℕ) (now : Instant)
    (bucket : List R2Object) (url : SearchParams) : Outcome (HotReply TripUpdateRow) :=
  match listHotRTFiles now bucket url.provider "gtfsrt_trip_updates" 24 with
  | [] => .ret (.noRecent "No recent trip updates found")
  | latest :: _ =>
    match readHotRTFile bucket latest.key with
    | none => .ret (.failed 500 "Failed to read RT file")
    | some ab => (parseFeedMessage fuel ab).map fun feed =>
      .rows (tripUpdateRows decode (url.get "route_id") (url.get "stop_id") feed)
        feed.header.timestamp

/-! ### Vehicle positions -/

/-- A row of `positions`. -/
structure PositionRow where
  vehicle_id : Option String
  trip_id : Option String
  route_id : Option String
  latitude : Option F32
  longitude : Option F32
  bearing : Option F32
  speed : Option F32
  timestamp : Option Num
  deriving DecidableEq, Repr

/-- The row pushed for a vehicle position. -/
def positionRow (decode : Utf8 → String) (vp : VehiclePosition) : PositionRow :=
  ⟨vp.vehicle.id.map decode, vp.trip.trip_id.map decode, vp.trip.route_id.map decode,
    vp.position.latitude, vp.position.longitude, vp.position.bearing, vp.position.speed,
    vp.timestamp⟩

/-- One iteration of the loop of `handleCurrentPositions`: an entity without a vehicle, or
failing the route or the vehicle filter, is skipped; every other pushes its row. -/
def positionStep (decode : Utf8 → String) (routeId vehicleId : Option String)
    (acc : List PositionRow) (entity : FeedEntity) : List PositionRow :=
  match entity.vehicle with
  | none => acc
  | some vp =>
    if truthy routeId && vp.trip.route_id.map decode != routeId then acc
    else if truthy vehicleId && vp.vehicle.id.map decode != vehicleId then acc
    else acc ++ [positionRow decode vp]

/-- The loop of `handleCurrentPositions`, from `positions = []`. -/
def positionRows (decode : Utf8 → String) (routeId vehicleId : Option String)
    (feed : FeedMessage) : List PositionRow :=
  feed.entity.foldl (positionStep decode routeId vehicleId) []

/-- `handleCurrentPositions(req, env, url)` at instant `now`. -/
def handleCurrentPositions (decode : Utf8 → String) (fuel : ℕ) (now : Instant)
    (bucket : List R2Object) (url : SearchParams) : Outcome (HotReply PositionRow) :=
  match listHotRTFiles now bucket url.provider "gtfsrt_vehicle_positions" 24 with
  | [] => .ret (.noRecent "No recent vehicle positions found")
  | latest :: _ =>
    match readHotRTFile bucket latest.key with
    | none => .ret (.failed 500 "Failed to read RT file")
    | some ab => (parseFeedMessage fuel ab).map fun feed =>
      .rows (positionRows decode (url.get "route_id") (url.get "vehicle_id") feed)
        feed.header.timestamp

/-! ### GeoJSON -/

/-- JavaScript truthiness of a float: neither `0`, `-0` nor `NaN`. -/
def F32.truthy (f : F32) : Bool :=
  f.bits &&& 0x7fffffff != 0 && !(f.bits &&& 0x7f800000 == 0x7f800000 && f.bits &&& 0x007fffff != 0)

/-- A Point feature: `coordinates` `[longitude, latitude]`, and the properties. -/
structure Feature where
  coordinates : F32 × F32
  vehicle_id : Option String
  trip_id : Option String
  route_id : Option String
  bearing : Option F32
  speed : Option F32
  timestamp : Option Num
  deriving DecidableEq, Repr

/-- The feature of a vehicle position at a latitude and a longitude. -/
def feature (decode : Utf8 → String) (vp : VehiclePosition) (lat lon : F32) : Feature :=
  ⟨(lon, lat), vp.vehicle.id.map decode, vp.trip.trip_id.map decode,
    vp.trip.route_id.map decode, vp.position.bearing, vp.position.speed, vp.timestamp⟩

/-- One iteration of the loop of `handleGeoJSONPositions`: an entity without a vehicle, or
failing the route filter, is skipped; a vehicle whose latitude and longitude are truthy pushes
its feature. -/
def geoJSONStep (decode : Utf8 → String) (routeId : Option String) (acc : List Feature)
    (entity : FeedEntity) : List Feature :=
  match entity.vehicle with
  | none => acc
  | some vp =>
    if truthy routeId && vp.trip.route_id.map decode != routeId then acc
    else match vp.position.latitude, vp.position.longitude with
      | some lat, some lon =>
        if lat.truthy && lon.truthy then acc ++ [feature decode vp lat lon] else acc
      | _, _ => acc

/-- The loop of `handleGeoJSONPositions`, from `features = []`. -/
def geoJSONFeatures (decode : Utf8 → String) (routeId : Option String) (feed : FeedMessage) :
    List Feature :=
  feed.entity.foldl (geoJSONStep decode routeId) []

/-- What `/api/v1/rt/geojson/positions` answers: a `FeatureCollection`, or an `errorResponse`. -/
inductive GeoReply where
  | features (fs : List Feature)
  | failed (status : ℕ) (error : String)
  deriving DecidableEq, Repr

/-- `handleGeoJSONPositions(req, env, url)` at instant `now`. -/
def handleGeoJSONPositions (decode : Utf8 → String) (fuel : ℕ) (now : Instant)
    (bucket : List R2Object) (url : SearchParams) : Outcome GeoReply :=
  match listHotRTFiles now bucket url.provider "gtfsrt_vehicle_positions" 24 with
  | [] => .ret (.features [])
  | latest :: _ =>
    match readHotRTFile bucket latest.key with
    | none => .ret (.failed 500 "Failed to read RT file")
    | some ab => (parseFeedMessage fuel ab).map fun feed =>
      .features (geoJSONFeatures decode (url.get "route_id") feed)

/-! ### Queries -/

namespace SearchParams

@[simp] theorem get_cons (name value n : String) (url : SearchParams) :
    get ((name, value) :: url) n = if name = n then some value else url.get n := by
  by_cases h : name = n <;> simp [get, List.find?_cons, h]

theorem provider_cons {name : String} (h : name ≠ "provider") (value : String)
    (url : SearchParams) : provider ((name, value) :: url) = url.provider := by
  simp [provider, h]

end SearchParams

/-! ### The loops flatten the feed -/

section Loops

variable (decode : Utf8 → String)

/-- A loop that pushes `f x` for every element appends their flattening. -/
theorem foldl_append_flatMap {β γ : Type} (f : β → List γ) :
    ∀ (xs : List β) (acc : List γ), xs.foldl (fun acc x => acc ++ f x) acc = acc ++ xs.flatMap f
  | [], acc => by simp
  | x :: xs, acc => by simp [foldl_append_flatMap f xs, List.append_assoc]

/-- The rows a stop time update pushes. -/
def stopTimeRows (stopId : Option String) (tu : TripUpdate) (stu : StopTimeUpdate) :
    List TripUpdateRow :=
  if truthy stopId && stu.stop_id.map decode != stopId then [] else [tripUpdateRow decode tu stu]

/-- The rows an entity pushes. -/
def entityTripRows (routeId stopId : Option String) (e : FeedEntity) : List TripUpdateRow :=
  match e.trip_update with
  | none => []
  | some tu =>
    if truthy routeId && tu.trip.route_id.map decode != routeId then []
    else tu.stop_time_update.flatMap (stopTimeRows decode stopId tu)

theorem stopTimeStep_eq (stopId : Option String) (tu : TripUpdate) (acc : List TripUpdateRow)
    (stu : StopTimeUpdate) :
    stopTimeStep decode stopId tu acc stu = acc ++ stopTimeRows decode stopId tu stu := by
  unfold stopTimeStep stopTimeRows; split <;> simp

theorem tripUpdateStep_eq (routeId stopId : Option String) (acc : List TripUpdateRow)
    (e : FeedEntity) :
    tripUpdateStep decode routeId stopId acc e = acc ++ entityTripRows decode routeId stopId e := by
  unfold tripUpdateStep entityTripRows
  cases e.trip_update with
  | none => simp
  | some tu =>
    simp only
    split
    · simp
    · rw [show stopTimeStep decode stopId tu =
          fun acc stu => acc ++ stopTimeRows decode stopId tu stu
        from funext₂ (stopTimeStep_eq decode stopId tu), foldl_append_flatMap]

/-- **The trip-update loop flattens the feed**: the rows of the entities, in order. -/
theorem tripUpdateRows_eq (routeId stopId : Option String) (feed : FeedMessage) :
    tripUpdateRows decode routeId stopId feed =
      feed.entity.flatMap (entityTripRows decode routeId stopId) := by
  rw [tripUpdateRows, show tripUpdateStep decode routeId stopId =
      fun acc e => acc ++ entityTripRows decode routeId stopId e
    from funext₂ (tripUpdateStep_eq decode routeId stopId), foldl_append_flatMap, List.nil_append]

/-- Filtered by a route and a stop, an entity pushes its unfiltered rows of that route and
stop. -/
theorem entityTripRows_filter {r s : String} (hr : r ≠ "") (hs : s ≠ "") (e : FeedEntity) :
    entityTripRows decode (some r) (some s) e =
      (entityTripRows decode none none e).filter fun row =>
        row.route_id == some r && row.stop_id == some s := by
  unfold entityTripRows
  cases e.trip_update with
  | none => rfl
  | some tu =>
    by_cases hroute : tu.trip.route_id.map decode = some r
    · simp [truthy, hr, hroute]
      rw [List.filter_flatMap]
      congr 1
      funext stu
      by_cases hst : stu.stop_id.map decode = some s <;>
        simp [stopTimeRows, truthy, hs, hst, tripUpdateRow, hroute]
    · simp [truthy, hr, hroute, stopTimeRows, List.filter_flatMap, tripUpdateRow]

/-- **A filtered trip-update loop pushes the unfiltered rows of its route and stop.** -/
theorem tripUpdateRows_filter {r s : String} (hr : r ≠ "") (hs : s ≠ "") (feed : FeedMessage) :
    tripUpdateRows decode (some r) (some s) feed =
      (tripUpdateRows decode none none feed).filter fun row =>
        row.route_id == some r && row.stop_id == some s := by
  rw [tripUpdateRows_eq, tripUpdateRows_eq, List.filter_flatMap]
  congr 1
  funext e
  exact entityTripRows_filter decode hr hs e

/-- The rows a vehicle entity pushes. -/
def entityPositionRows (routeId vehicleId : Option String) (e : FeedEntity) : List PositionRow :=
  match e.vehicle with
  | none => []
  | some vp =>
    if truthy routeId && vp.trip.route_id.map decode != routeId then []
    else if truthy vehicleId && vp.vehicle.id.map decode != vehicleId then []
    else [positionRow decode vp]

theorem positionStep_eq (routeId vehicleId : Option String) (acc : List PositionRow)
    (e : FeedEntity) :
    positionStep decode routeId vehicleId acc e =
      acc ++ entityPositionRows decode routeId vehicleId e := by
  unfold positionStep entityPositionRows
  cases e.vehicle with
  | none => simp
  | some vp => simp only; split_ifs <;> simp

/-- **The position loop flattens the feed**: a row per vehicle entity passing the filters. -/
theorem positionRows_eq (routeId vehicleId : Option String) (feed : FeedMessage) :
    positionRows decode routeId vehicleId feed =
      feed.entity.flatMap (entityPositionRows decode routeId vehicleId) := by
  rw [positionRows, show positionStep decode routeId vehicleId =
      fun acc e => acc ++ entityPositionRows decode routeId vehicleId e
    from funext₂ (positionStep_eq decode routeId vehicleId), foldl_append_flatMap,
    List.nil_append]

theorem entityPositionRows_filter {r v : String} (hr : r ≠ "") (hv : v ≠ "") (e : FeedEntity) :
    entityPositionRows decode (some r) (some v) e =
      (entityPositionRows decode none none e).filter fun row =>
        row.route_id == some r && row.vehicle_id == some v := by
  unfold entityPositionRows
  cases e.vehicle with
  | none => rfl
  | some vp =>
    by_cases hroute : vp.trip.route_id.map decode = some r <;>
    by_cases hveh : vp.vehicle.id.map decode = some v <;>
      simp [truthy, hr, hv, hroute, hveh, positionRow]

/-- **A filtered position loop pushes the unfiltered rows of its route and vehicle.** -/
theorem positionRows_filter {r v : String} (hr : r ≠ "") (hv : v ≠ "") (feed : FeedMessage) :
    positionRows decode (some r) (some v) feed =
      (positionRows decode none none feed).filter fun row =>
        row.route_id == some r && row.vehicle_id == some v := by
  rw [positionRows_eq, positionRows_eq, List.filter_flatMap]
  congr 1
  funext e
  exact entityPositionRows_filter decode hr hv e

/-- The trip-update rows of a feed: a row per stop time update of each entity with a trip
update, in order. -/
def flatTripUpdates (feed : FeedMessage) : List TripUpdateRow :=
  feed.entity.flatMap fun e =>
    (e.trip_update.map fun tu => tu.stop_time_update.map (tripUpdateRow decode tu)).getD []

/-- The position rows of a feed: a row per entity with a vehicle, in order. -/
def flatPositions (feed : FeedMessage) : List PositionRow :=
  feed.entity.filterMap fun e => e.vehicle.map (positionRow decode)

theorem tripUpdateRows_none (feed : FeedMessage) :
    tripUpdateRows decode none none feed = flatTripUpdates decode feed := by
  rw [tripUpdateRows_eq, flatTripUpdates]
  congr 1
  funext e
  unfold entityTripRows
  cases e.trip_update with
  | none => rfl
  | some tu =>
    have h : stopTimeRows decode none tu = fun stu => [tripUpdateRow decode tu stu] :=
      funext fun _ => by simp [stopTimeRows, truthy]
    simp [truthy, h, List.map_eq_flatMap]

theorem positionRows_none (feed : FeedMessage) :
    positionRows decode none none feed = flatPositions decode feed := by
  rw [positionRows_eq, flatPositions, List.filterMap_eq_flatMap_toList]
  congr 1
  funext e
  unfold entityPositionRows
  cases e.vehicle <;> simp [truthy]

end Loops

/-! ### The responses -/

section Read

variable {bucket : List R2Object} (hkeys : (bucket.map (·.key)).Nodup)
  (hshort : ∀ o ∈ bucket, o.body.length < 2 ^ 53)
include hkeys hshort

/-- With distinct keys, `readHotRTFile` reads the body of the object under a key. -/
theorem readHotRTFile_of_mem {o : R2Object} (ho : o ∈ bucket) :
    ∃ ab, readHotRTFile bucket o.key = some ab ∧ ab.data = o.body := by
  obtain ⟨x, hx⟩ := Option.isSome_iff_exists.1
    (List.find?_isSome.2 ⟨o, ho, by simp⟩ : (bucket.find? fun x => x.key = o.key).isSome)
  have hxo : x = o := by
    have hkey : x.key = o.key := by simpa using List.find?_some hx
    exact List.inj_on_of_nodup_map hkeys (List.mem_of_find?_eq_some hx) ho hkey
  subst hxo
  exact ⟨⟨x.body, hshort x ho⟩, by simp only [readHotRTFile, hx, Option.some_bind,
    dif_pos (hshort x ho)], rfl⟩

/-- The first file listed reads as the body of its object. -/
theorem listHotRTFiles_read {now : Instant} {p k : String} {latest : HotFile}
    {rest : List HotFile} (hlist : listHotRTFiles now bucket p k 24 = latest :: rest) :
    ∃ o ∈ bucket, o.file = latest ∧ ∃ ab : ArrayBuffer, ab.data = o.body ∧
      readHotRTFile bucket latest.key = some ab := by
  obtain ⟨o, ho, -, -, -, rfl⟩ := mem_listHotRTFiles now bucket p k 24 (hlist ▸ List.mem_cons_self _ _)
  obtain ⟨ab, hab, hdata⟩ := readHotRTFile_of_mem hkeys hshort ho
  exact ⟨o, ho, rfl, ab, hdata, hab⟩

end Read

section Responses

variable (decode : Utf8 → String) (fuel : ℕ) (now : Instant) (bucket : List R2Object)
  (url : SearchParams)

/-- **The hot responses are the filtered flattening of the newest snapshot.**  For a bucket with
distinct keys and bodies an `ArrayBuffer` holds, and a query without `route_id`, `stop_id` or
`vehicle_id`: the first trip-updates file of the window is that of an object of the bucket, and
`handleCurrentTripUpdates` answers the rows of the stop time updates of the feed its body
decodes to, in order; the same query with a non-empty `route_id` `r` and `stop_id` `s` answers
those rows of route `r` and stop `s`, in order, whatever the bucket holds.  Likewise
`handleCurrentPositions` answers a row per entity with a vehicle, and a route `r` and vehicle
`v` restrict it. -/
theorem hot_responses_filter (hkeys : (bucket.map (·.key)).Nodup)
    (hshort : ∀ o ∈ bucket, o.body.length < 2 ^ 53) (hroute : url.get "route_id" = none)
    (hstop : url.get "stop_id" = none) (hveh : url.get "vehicle_id" = none) {r s v : String}
    (hr : r ≠ "") (hs : s ≠ "") (hv : v ≠ "") :
    (∀ latest rest,
      listHotRTFiles now bucket url.provider "gtfsrt_trip_updates" 24 = latest :: rest →
      ∃ o ∈ bucket, o.file = latest ∧ ∃ ab : ArrayBuffer, ab.data = o.body ∧
        handleCurrentTripUpdates decode fuel now bucket url =
          (parseFeedMessage fuel ab).map fun feed =>
            .rows (flatTripUpdates decode feed) feed.header.timestamp) ∧
    handleCurrentTripUpdates decode fuel now bucket (("route_id", r) :: ("stop_id", s) :: url) =
      (handleCurrentTripUpdates decode fuel now bucket url).map
        (HotReply.restrict fun row => row.route_id == some r && row.stop_id == some s) ∧
    (∀ latest rest,
      listHotRTFiles now bucket url.provider "gtfsrt_vehicle_positions" 24 = latest :: rest →
      ∃ o ∈ bucket, o.file = latest ∧ ∃ ab : ArrayBuffer, ab.data = o.body ∧
        handleCurrentPositions decode fuel now bucket url =
          (parseFeedMessage fuel ab).map fun feed =>
            .rows (flatPositions decode feed) feed.header.timestamp) ∧
    handleCurrentPositions decode fuel now bucket (("route_id", r) :: ("vehicle_id", v) :: url) =
      (handleCurrentPositions decode fuel now bucket url).map
        (HotReply.restrict fun row => row.route_id == some r && row.vehicle_id == some v) := by
  have hp₁ : SearchParams.provider (("route_id", r) :: ("stop_id", s) :: url) = url.provider := by
    rw [SearchParams.provider_cons (by decide), SearchParams.provider_cons (by decide)]
  have hp₂ :
      SearchParams.provider (("route_id", r) :: ("vehicle_id", v) :: url) = url.provider := by
    rw [SearchParams.provider_cons (by decide), SearchParams.provider_cons (by decide)]
  refine ⟨fun latest rest hlist => ?_, ?_, fun latest rest hlist => ?_, ?_⟩
  · obtain ⟨o, ho, hfile, ab, hdata, hread⟩ := listHotRTFiles_read hkeys hshort hlist
    refine ⟨o, ho, hfile, ab, hdata, ?_⟩
    simp only [handleCurrentTripUpdates, hlist, hread, hroute, hstop, tripUpdateRows_none]
  · simp only [handleCurrentTripUpdates, hp₁, hroute, hstop, SearchParams.get_cons]
    split
    · rfl
    · split
      · rfl
      · cases parseFeedMessage fuel _ with
        | ret feed => simp [HotReply.restrict, tripUpdateRows_filter decode hr hs]
        | _ => rfl
  · obtain ⟨o, ho, hfile, ab, hdata, hread⟩ := listHotRTFiles_read hkeys hshort hlist
    refine ⟨o, ho, hfile, ab, hdata, ?_⟩
    simp only [handleCurrentPositions, hlist, hread, hroute, hveh, positionRows_none]
  · simp only [handleCurrentPositions, hp₂, hroute, hveh, SearchParams.get_cons]
    split
    · rfl
    · split
      · rfl
      · cases parseFeedMessage fuel _ with
        | ret feed => simp [HotReply.restrict, positionRows_filter decode hr hv]
        | _ => rfl

/-- A bucket at noon UTC on 5 November 2025 holding the snapshots `tripFeed` and `vehicleFeed`,
saved at 6:00 that day in Montreal. -/
def hotBucket : List R2Object :=
  [⟨rtPath "stm" "gtfsrt_trip_updates" 1762340400000, tripFeed.data, 1762340400000⟩,
    ⟨rtPath "stm" "gtfsrt_vehicle_positions" 1762340400000, vehicleFeed.data, 1762340400000⟩]

/-- An hour after the saves, each listing of `hotBucket` is its one snapshot. -/
theorem listHotRTFiles_hotBucket :
    listHotRTFiles 1762344000000 hotBucket "stm" "gtfsrt_trip_updates" 24 =
        [⟨rtPath "stm" "gtfsrt_trip_updates" 1762340400000, 1762340400000⟩] ∧
      listHotRTFiles 1762344000000 hotBucket "stm" "gtfsrt_vehicle_positions" 24 =
        [⟨rtPath "stm" "gtfsrt_vehicle_positions" 1762340400000, 1762340400000⟩] := by
  constructor <;> refine List.perm_singleton.1 ((listHotRTFiles_perm _ _ _ _ _).trans ?_) <;>
    exact .of_eq (by decide)

/-- The law over `hotBucket`, for the query with no parameter, the route `"r"`, the stop `"s"`
and the vehicle `"v"`: each handler answers from the one snapshot of its kind. -/
theorem hot_responses_filter_hotBucket :
    (hotBucket.map (·.key)).Nodup ∧ (∀ o ∈ hotBucket, o.body.length < 2 ^ 53) ∧
      SearchParams.get [] "route_id" = none ∧ SearchParams.get [] "stop_id" = none ∧
      SearchParams.get [] "vehicle_id" = none ∧
      (∃ o ∈ hotBucket, o.file = ⟨rtPath "stm" "gtfsrt_trip_updates" 1762340400000, 1762340400000⟩ ∧
        ∃ ab : ArrayBuffer, ab.data = o.body ∧
          handleCurrentTripUpdates (fun _ => "") 16 1762344000000 hotBucket [] =
            (parseFeedMessage 16 ab).map fun feed =>
              .rows (flatTripUpdates (fun _ => "") feed) feed.header.timestamp) ∧
      handleCurrentTripUpdates (fun _ => "") 16 1762344000000 hotBucket
          [("route_id", "r"), ("stop_id", "s")] =
        (handleCurrentTripUpdates (fun _ => "") 16 1762344000000 hotBucket []).map
          (HotReply.restrict fun row => row.route_id == some "r" && row.stop_id == some "s") ∧
      (∃ o ∈ hotBucket,
        o.file = ⟨rtPath "stm" "gtfsrt_vehicle_positions" 1762340400000, 1762340400000⟩ ∧
        ∃ ab : ArrayBuffer, ab.data = o.body ∧
          handleCurrentPositions (fun _ => "") 16 1762344000000 hotBucket [] =
            (parseFeedMessage 16 ab).map fun feed =>
              .rows (flatPositions (fun _ => "") feed) feed.header.timestamp) ∧
      handleCurrentPositions (fun _ => "") 16 1762344000000 hotBucket
          [("route_id", "r"), ("vehicle_id", "v")] =
        (handleCurrentPositions (fun _ => "") 16 1762344000000 hotBucket []).map
          (HotReply.restrict fun row => row.route_id == some "r" && row.vehicle_id == some "v") :=
  have hkeys : (hotBucket.map (·.key)).Nodup := by decide
  have hshort : ∀ o ∈ hotBucket, o.body.length < 2 ^ 53 := by decide
  have h := hot_responses_filter (fun _ => "") 16 1762344000000 hotBucket [] hkeys hshort rfl rfl
    rfl (r := "r") (s := "s") (v := "v") (by decide) (by decide) (by decide)
  ⟨hkeys, hshort, rfl, rfl, rfl, h.1 _ [] listHotRTFiles_hotBucket.1, h.2.1,
    h.2.2.1 _ [] listHotRTFiles_hotBucket.2, h.2.2.2⟩

end Responses

/-! ### The two position views -/

/-- JavaScript truthiness of a float that may be `null`. -/
def floatTruthy : Option F32 → Bool
  | some f => f.truthy
  | none => false

/-- The feature of a row whose latitude and longitude are reported. -/
def PositionRow.feature? (row : PositionRow) : Option Feature :=
  match row.latitude, row.longitude with
  | some lat, some lon =>
    some ⟨(lon, lat), row.vehicle_id, row.trip_id, row.route_id, row.bearing, row.speed,
      row.timestamp⟩
  | _, _ => none

/-- The feature of a row whose latitude and longitude are truthy. -/
def PositionRow.truthyFeature? (row : PositionRow) : Option Feature :=
  if floatTruthy row.latitude && floatTruthy row.longitude then row.feature? else none

/-- The GeoJSON view of a position reply: the rows whose latitude and longitude are reported,
as Point features, in order. -/
def HotReply.geo : HotReply PositionRow → GeoReply
  | .noRecent _ => .features []
  | .failed status error => .failed status error
  | .rows rs _ => .features (rs.filterMap PositionRow.feature?)

section Geo

variable (decode : Utf8 → String)

theorem geoJSONStep_eq (routeId : Option String) (acc : List Feature) (e : FeedEntity) :
    geoJSONStep decode routeId acc e =
      acc ++ (entityPositionRows decode routeId none e).filterMap PositionRow.truthyFeature? := by
  unfold geoJSONStep entityPositionRows
  cases e.vehicle with
  | none => simp
  | some vp =>
    simp only [truthy, Bool.false_and, if_false]
    split
    · simp
    · cases hlat : vp.position.latitude with
      | none => simp [PositionRow.truthyFeature?, positionRow, floatTruthy, hlat]
      | some lat =>
        cases hlon : vp.position.longitude with
        | none => simp [PositionRow.truthyFeature?, positionRow, floatTruthy, hlat, hlon]
        | some lon =>
          cases hl : lat.truthy <;> cases hn : lon.truthy <;>
            simp [PositionRow.truthyFeature?, PositionRow.feature?, positionRow, floatTruthy, hlat,
              hlon, hl, hn, feature]

/-- **The GeoJSON features are the position rows with truthy coordinates**: for every feed,
the rows of the same route filter and no vehicle filter whose latitude and longitude are
neither `null`, `0`, `-0` nor `NaN`, in order. -/
theorem geoJSONFeatures_eq (routeId : Option String) (feed : FeedMessage) :
    geoJSONFeatures decode routeId feed =
      (positionRows decode routeId none feed).filterMap PositionRow.truthyFeature? := by
  rw [geoJSONFeatures, show geoJSONStep decode routeId = fun acc e =>
      acc ++ (entityPositionRows decode routeId none e).filterMap PositionRow.truthyFeature?
    from funext₂ (geoJSONStep_eq decode routeId), foldl_append_flatMap, List.nil_append,
    positionRows_eq, List.filterMap_flatMap]

/-- The rows of a feed whose vehicles report no coordinate have no latitude. -/
theorem positionRows_latitude {routeId vehicleId : Option String} {feed : FeedMessage}
    (h : ∀ e ∈ feed.entity, ∀ vp, e.vehicle = some vp → vp.position = {}) :
    ∀ row ∈ positionRows decode routeId vehicleId feed, row.latitude = none := by
  rw [positionRows_eq]
  intro row hrow
  obtain ⟨e, he, hrow⟩ := List.mem_flatMap.1 hrow
  unfold entityPositionRows at hrow
  cases hv : e.vehicle with
  | none => simp [hv] at hrow
  | some vp =>
    simp only [hv] at hrow
    split_ifs at hrow <;> first
      | exact absurd hrow (List.not_mem_nil _)
      | rw [List.mem_singleton.1 hrow, positionRow, h e he vp hv]

/-- **The GeoJSON view agrees with the position view.**  For a query without `vehicle_id`,
`handleGeoJSONPositions` answers, in order, one Point feature `[longitude, latitude]` with the
row's properties for exactly the rows of `handleCurrentPositions` whose latitude and longitude
are reported, a reported `0` included. -/
theorem geoJSON_agrees (fuel : ℕ) (now : Instant) (bucket : List R2Object) (url : SearchParams)
    (hveh : url.get "vehicle_id" = none) :
    handleGeoJSONPositions decode fuel now bucket url =
      (handleCurrentPositions decode fuel now bucket url).map HotReply.geo := by
  simp only [handleGeoJSONPositions, handleCurrentPositions, hveh]
  split
  · rfl
  · split
    · rfl
    · next ab _ =>
      cases h : parseFeedMessage fuel ab with
      | ret feed =>
        simp only [Outcome.ret_map, HotReply.geo, geoJSONFeatures_eq]
        congr 2
        refine List.filterMap_congr fun row hrow => ?_
        simp [PositionRow.truthyFeature?, PositionRow.feature?, floatTruthy,
          positionRows_latitude decode (parseFeedMessage_position_empty h) row hrow]
      | _ => rfl

/-- Over `hotBucket` the GeoJSON view reads the vehicle snapshot. -/
theorem geoJSON_agrees_hotBucket :
    SearchParams.get [] "vehicle_id" = none ∧
      listHotRTFiles 1762344000000 hotBucket "stm" "gtfsrt_vehicle_positions" 24 =
        [⟨rtPath "stm" "gtfsrt_vehicle_positions" 1762340400000, 1762340400000⟩] ∧
      handleGeoJSONPositions (fun _ => "") 16 1762344000000 hotBucket [] =
        (handleCurrentPositions (fun _ => "") 16 1762344000000 hotBucket []).map HotReply.geo :=
  ⟨rfl, listHotRTFiles_hotBucket.2, geoJSON_agrees (fun _ => "") 16 1762344000000 hotBucket [] rfl⟩

end Geo

end Transit
