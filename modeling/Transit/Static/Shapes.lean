import Transit.Static.Pages

/-!
# Shapes and route lines

`/api/v1/static/shapes` answers the points of a shape, and `/api/v1/geojson/routes` (with its
alias `/api/v1/geojson/shapes`) draws routes as GeoJSON `LineString`s.  Asked for a `route_id`,
both pick the route's shape with the same statement,

```
SELECT DISTINCT shape_id FROM trips WHERE provider_key = ? AND feed_date = ? AND route_id = ?
  AND shape_id IS NOT NULL LIMIT 1
```

which has no `ORDER BY`: a route with several shapes may be drawn with any of them.  Then the
shapes endpoint reads `SELECT * FROM shapes ... ORDER BY shape_pt_sequence`, and the GeoJSON one
reads `SELECT shape_pt_lat, shape_pt_lon FROM shapes ... ORDER BY shape_pt_sequence`: two
statements, which D1 may order differently where keys tie.  They do not tie: the primary key of
`shapes` is `(provider_key, feed_date, shape_id, shape_pt_sequence)` and the `WHERE` fixes the
first three.  So the line is the shape's points, in the order `/shapes` gives them.

Without a `route_id`, the GeoJSON handler joins `trips` with `routes`, and for every distinct
pair of a route and a shape its loop reads the shape's points and pushes a feature when there is
one: a route with two shapes is drawn twice, and a shape without points not at all.

D1 answers each statement as SQL says: the relations below are its meaning.  A handler whose
D1 call throws throws too, and the router's `catch` answers it with a `500`; the handlers here
return the exception.  The route names the GeoJSON properties carry are left out; `parseFloat`
of a `REAL` is a parameter.

## Main definitions

* `ShapeRow`, `ShapesTable` — the points of `shapes`, and the table with its primary key.
* `routeShapeIds`, `routeShapePairs` — the `DISTINCT` statements over `trips`.
* `ShapeD1`, `ShapeD1.Faithful`, `ShapeD1.ofDb` — the statements of these handlers, what D1
  answers, and an executable D1.
* `handleShapes`, `handleGeoJSONRoutes`, `handleGeoJSONShapes`, `routeFeatures`.

## Main results

* `Select.Answers.eq_run` — where the key has no ties, D1's answer is the executable one.
* `shapes_geojson_agree` — for a route, the GeoJSON line is the points `/shapes` answers.
* `geojsonRoutes_lines` — without a route, one line per distinct route and shape with points.
-/

namespace Transit

namespace StaticApi

/-! ### The shapes table -/

/-- A row of `shapes`: a point of a shape. -/
structure ShapeRow (α : Type) where
  provider_key : String
  feed_date : String
  shape_id : String
  shape_pt_lat : α
  shape_pt_lon : α
  shape_pt_sequence : ℤ
  shape_dist_traveled : Option α
  deriving DecidableEq, Repr

/-- The columns of a point that the statements name. -/
def shapeColumn {α : Type} (p : ShapeRow α) : String → Option Value
  | "provider_key" => some (.text p.provider_key)
  | "feed_date" => some (.text p.feed_date)
  | "shape_id" => some (.text p.shape_id)
  | "shape_pt_sequence" => some (.int p.shape_pt_sequence)
  | _ => none

/-- `shapes`, with the primary key its `CREATE TABLE` declares. -/
structure ShapesTable (α : Type) where
  rows : List (ShapeRow α)
  pk : PrimaryKey shapeColumn rows ["provider_key", "feed_date", "shape_id", "shape_pt_sequence"]

/-! ### The statements -/

section Statements

variable {α : Type}

/-- `... FROM shapes WHERE provider_key = ? AND feed_date = ? AND shape_id = ?
ORDER BY shape_pt_sequence`. -/
def shapeSelect (provider feedDate shapeId : String) : Select :=
  ⟨"shapes", [("provider_key", .text provider), ("feed_date", .text feedDate),
    ("shape_id", .text shapeId)], some "shape_pt_sequence", none⟩

/-- `SELECT route_id, route_short_name, route_long_name FROM routes WHERE provider_key = ? AND
feed_date = ? AND route_id = ? LIMIT 1`, of which the handler reads `results[0]`. -/
def routeInfoSelect (provider feedDate routeId : String) : Select :=
  ⟨"routes", [("provider_key", .text provider), ("feed_date", .text feedDate),
    ("route_id", .text routeId)], none, none⟩

/-- `SELECT DISTINCT shape_id FROM trips WHERE provider_key = ? AND feed_date = ? AND
route_id = ? AND shape_id IS NOT NULL`: the shapes of the route's trips, each once. -/
def routeShapeIds (db : StaticDb α) (provider feedDate routeId : String) : List String :=
  (db.trips.filterMap fun t =>
    if t.provider_key = provider ∧ t.feed_date = feedDate ∧ t.route_id = routeId then t.shape_id
    else none).dedup

/-- `SELECT DISTINCT t.route_id, r.route_short_name, r.route_long_name, t.shape_id FROM trips t
JOIN routes r ON ... WHERE t.provider_key = ? AND t.feed_date = ? AND t.shape_id IS NOT NULL`:
each route and shape of a trip whose route is in `routes`, once.  The names come with the
route, whose primary key the join matches, so they add no pair. -/
def routeShapePairs (db : StaticDb α) (provider feedDate : String) : List (String × String) :=
  (db.trips.filterMap fun t =>
    if t.provider_key = provider ∧ t.feed_date = feedDate ∧
        db.routes.any fun r => r.provider_key = t.provider_key ∧ r.feed_date = t.feed_date ∧
          r.route_id = t.route_id
    then t.shape_id.map (t.route_id, ·) else none).dedup

/-- How D1 answers the statements of the shape handlers that `D1` does not, or throws. -/
structure ShapeD1 (α : Type) where
  /-- `SELECT DISTINCT shape_id FROM trips ... LIMIT 1` -/
  routeShape : String → String → String → Except JsError (List String)
  /-- `SELECT * FROM shapes ...` -/
  shapes : Select → Except JsError (List (ShapeRow α))
  /-- `SELECT shape_pt_lat, shape_pt_lon FROM shapes ...` -/
  shapeCoords : Select → Except JsError (List (α × α))
  /-- `SELECT DISTINCT t.route_id, ..., t.shape_id FROM trips t JOIN routes r ...` -/
  routeShapes : String → String → Except JsError (List (String × String))

/-- The latitude and longitude columns of a point. -/
def ShapeRow.latLon (p : ShapeRow α) : α × α := (p.shape_pt_lat, p.shape_pt_lon)

/-- D1 answers as SQL says: `LIMIT 1` without `ORDER BY` keeps any one distinct shape, and a
`DISTINCT` answers each pair once, in any order. -/
structure ShapeD1.Faithful (db : StaticDb α) (table : ShapesTable α) (d1 : ShapeD1 α) :
    Prop where
  routeShape : ∀ provider feedDate routeId rows,
    d1.routeShape provider feedDate routeId = .ok rows →
      ∃ ids : List String, ids.Perm (routeShapeIds db provider feedDate routeId) ∧
        rows = ids.take 1
  shapes : StaticApi.Faithful shapeColumn table.rows d1.shapes
  shapeCoords : ∀ s rows, s.Bound → d1.shapeCoords s = .ok rows →
    ∃ points, s.Answers shapeColumn table.rows points ∧ rows = points.map ShapeRow.latLon
  routeShapes : ∀ provider feedDate rows, d1.routeShapes provider feedDate = .ok rows →
    rows.Perm (routeShapePairs db provider feedDate)

/-- The executable D1 over a database. -/
def ShapeD1.ofDb (db : StaticDb α) (shapes : ShapesTable α) : ShapeD1 α where
  routeShape provider feedDate routeId := .ok ((routeShapeIds db provider feedDate routeId).take 1)
  shapes s := .ok (s.run shapeColumn shapes.rows)
  shapeCoords s := .ok ((s.run shapeColumn shapes.rows).map ShapeRow.latLon)
  routeShapes provider feedDate := .ok (routeShapePairs db provider feedDate)

theorem ShapeD1.ofDb_faithful (db : StaticDb α) (shapes : ShapesTable α) :
    (ShapeD1.ofDb db shapes).Faithful db shapes where
  routeShape _ _ _ _ h := ⟨_, List.Perm.refl _, (Except.ok.inj h).symm⟩
  shapes := Select.run_faithful _ _
  shapeCoords s _ hs h :=
    ⟨_, Select.run_faithful _ _ s _ hs rfl, (Except.ok.inj h).symm⟩
  routeShapes _ _ _ h := by cases h; exact List.Perm.refl _

end Statements

/-! ### The handlers -/

section Handlers

variable {α : Type}

/-- A reply of `handleShapes`: `errorResponse(message, status)`, the
`{ shapes: [], message }` of a route without a shape, or `{ shapes, count }`. -/
inductive ShapesReply (α : Type) where
  | error (status : ℕ) (message : String)
  | noShape (message : String)
  | shapes (rows : List (ShapeRow α))
  deriving DecidableEq, Repr

/-- `handleShapes(req, env, url)`: the points of `shape_id`, or of the shape D1 picks for
`route_id`. -/
def handleShapes (db : StaticDb α) (d1 : ShapeD1 α) (url : SearchParams) :
    Except JsError (ShapesReply α) :=
  match getLatestFeedDate db url.provider with
  | none => .ok (.error 404 "No static data found for provider")
  | some feedDate =>
    let points (shapeId : String) := (d1.shapes (shapeSelect url.provider feedDate shapeId)).map
      ShapesReply.shapes
    if truthy (url.get "shape_id") then points ((url.get "shape_id").getD "")
    else if truthy (url.get "route_id") then
      d1.routeShape url.provider feedDate ((url.get "route_id").getD "") >>= fun
        | [] => .ok (.noShape "No shape found for route")
        | shapeId :: _ => points shapeId
    else .ok (.error 400 "route_id or shape_id parameter required")

/-- A GeoJSON `LineString` feature: its `[lon, lat]` coordinates, and the `route_id` of its
properties. -/
structure LineFeature (α : Type) where
  coordinates : List (α × α)
  route_id : String
  deriving DecidableEq, Repr

/-- A reply of the GeoJSON routes: `errorResponse(message, status)`, or the `FeatureCollection`
of `geojsonResponse(features)`. -/
inductive GeoReply (α : Type) where
  | error (status : ℕ) (message : String)
  | features (features : List (LineFeature α))
  deriving DecidableEq, Repr

/-- `[parseFloat(row.shape_pt_lon), parseFloat(row.shape_pt_lat)]`. -/
def lonLat (parseFloat : α → α) (latLon : α × α) : α × α :=
  (parseFloat latLon.2, parseFloat latLon.1)

/-- The loop `for (const route of routesResult.results)`: read the shape's points, and push a
feature when there is one. -/
def routeFeatures (parseFloat : α → α) (d1 : ShapeD1 α) (provider feedDate : String) :
    List (String × String) → Except JsError (List (LineFeature α))
  | [] => .ok []
  | (routeId, shapeId) :: rest => do
    let coords ← d1.shapeCoords (shapeSelect provider feedDate shapeId)
    let features ← routeFeatures parseFloat d1 provider feedDate rest
    pure (if coords.isEmpty then features
      else ⟨coords.map (lonLat parseFloat), routeId⟩ :: features)

/-- `handleGeoJSONRoutes(req, env, url)`: the line of `route_id`, or of every route. -/
def handleGeoJSONRoutes (parseFloat : α → α) (db : StaticDb α) (d1 : D1 α) (sd1 : ShapeD1 α)
    (url : SearchParams) : Except JsError (GeoReply α) :=
  match getLatestFeedDate db url.provider with
  | none => .ok (.features [])
  | some feedDate =>
    if truthy (url.get "route_id") then
      let routeId := (url.get "route_id").getD ""
      sd1.routeShape url.provider feedDate routeId >>= fun
        | [] => .ok (.features [])
        | shapeId :: _ => do
          let coords ← sd1.shapeCoords (shapeSelect url.provider feedDate shapeId)
          let info ← d1.routes (routeInfoSelect url.provider feedDate routeId)
          pure (.features [⟨coords.map (lonLat parseFloat),
            (info.head?.map (·.route_id)).getD routeId⟩])
    else do
      let pairs ← sd1.routeShapes url.provider feedDate
      (routeFeatures parseFloat sd1 url.provider feedDate pairs).map .features

/-- `handleGeoJSONShapes(req, env, url)`, an alias of `handleGeoJSONRoutes`. -/
def handleGeoJSONShapes (parseFloat : α → α) (db : StaticDb α) (d1 : D1 α) (sd1 : ShapeD1 α)
    (url : SearchParams) : Except JsError (GeoReply α) :=
  handleGeoJSONRoutes parseFloat db d1 sd1 url

end Handlers

/-! ### Where the order has no ties, D1 answers one list -/

section Unique

variable {ρ : Type} {col : ρ → String → Option Value} {tbl : List ρ}

/-- A statement ordered by a key no two kept rows share, and not cut, has one answer: the
executable one. -/
theorem Select.Answers.eq_run {s : Select} {o : String} (ho : s.order = some o)
    (hp : s.page = none)
    (hinj : ∀ a ∈ tbl.filter (keepRow col s.conds), ∀ b ∈ tbl.filter (keepRow col s.conds),
      sortKey col o a = sortKey col o b → a = b)
    (hb : s.Bound) {rows : List ρ} (h : s.Answers col tbl rows) : rows = s.run col tbl := by
  obtain ⟨ord, hperm, hsort, hrows⟩ := h
  obtain ⟨ord', hperm', hsort', hrun⟩ := Select.run_faithful col tbl s _ hb rfl
  rw [hp] at hrows hrun
  rw [hrows, hrun]
  exact eq_of_perm_of_sorted_key (fun a ha b hb => hinj a (hperm.subset ha) b (hperm.subset hb))
    (hperm.trans hperm'.symm) (hsort o ho) (hsort' o ho)

end Unique

section Shapes

variable {α : Type} {db : StaticDb α} {table : ShapesTable α} {sd1 : ShapeD1 α}
  {url : SearchParams}

theorem shapeSelect_bound (provider feedDate shapeId : String) :
    (shapeSelect provider feedDate shapeId).Bound := by
  simp [Select.Bound, Select.params, shapeSelect]

/-- The points of one shape differ in `shape_pt_sequence`. -/
theorem shapeSelect_injOn (table : ShapesTable α) (provider feedDate shapeId : String) :
    ∀ a ∈ table.rows.filter (keepRow shapeColumn (shapeSelect provider feedDate shapeId).conds),
    ∀ b ∈ table.rows.filter (keepRow shapeColumn (shapeSelect provider feedDate shapeId).conds),
      sortKey shapeColumn "shape_pt_sequence" a = sortKey shapeColumn "shape_pt_sequence" b →
        a = b :=
  sortKey_injOn table.pk (by simp [shapeSelect])

/-- D1's points of a shape are the executable ones. -/
theorem ShapeD1.Faithful.shapes_eq (hsd1 : sd1.Faithful db table)
    {provider feedDate shapeId : String} {rows : List (ShapeRow α)}
    (h : sd1.shapes (shapeSelect provider feedDate shapeId) = .ok rows) :
    rows = (shapeSelect provider feedDate shapeId).run shapeColumn table.rows :=
  Select.Answers.eq_run rfl rfl (shapeSelect_injOn table _ _ _) (shapeSelect_bound _ _ _)
    (hsd1.shapes _ _ (shapeSelect_bound _ _ _) h)

/-- D1's coordinates of a shape are those of the executable points. -/
theorem ShapeD1.Faithful.shapeCoords_eq (hsd1 : sd1.Faithful db table)
    {provider feedDate shapeId : String} {coords : List (α × α)}
    (h : sd1.shapeCoords (shapeSelect provider feedDate shapeId) = .ok coords) :
    coords = ((shapeSelect provider feedDate shapeId).run shapeColumn table.rows).map
      ShapeRow.latLon := by
  obtain ⟨points, hans, rfl⟩ := hsd1.shapeCoords _ _ (shapeSelect_bound _ _ _) h
  rw [Select.Answers.eq_run rfl rfl (shapeSelect_injOn table _ _ _) (shapeSelect_bound _ _ _) hans]

/-- The route of the row `results[0]` of the route statement is the route asked for. -/
theorem routeInfo_route_id {d1 : D1 α} (hd1 : d1.Faithful db) {provider feedDate routeId : String}
    {info : List RouteRow} (h : d1.routes (routeInfoSelect provider feedDate routeId) = .ok info) :
    (info.head?.map (·.route_id)).getD routeId = routeId := by
  obtain ⟨ordered, hperm, -, hinfo⟩ := hd1.routes _ _ (by simp [Select.Bound, Select.params,
    routeInfoSelect]) h
  have hinfo : info = ordered := hinfo
  subst hinfo
  rcases info with _ | ⟨r, _⟩
  · rfl
  · have hr := (List.mem_filter.1 (hperm.subset (List.mem_cons_self r _))).2
    simp only [keepRow, routeInfoSelect, List.all_cons, List.all_nil, RouteRow.get, Param.matches,
      beq_iff_eq, Value.text.injEq, Bool.and_true, Bool.and_eq_true] at hr
    simp [hr]

/-- What `handleShapes` answers for a route: the points of the shape D1 picks. -/
theorem handleShapes_route (hshape : truthy (url.get "shape_id") = false) {routeId : String}
    (hroute : url.get "route_id" = some routeId) (hne : routeId ≠ "") {rows : List (ShapeRow α)}
    (h : handleShapes db sd1 url = .ok (.shapes rows)) :
    ∃ feedDate shapeId rest, getLatestFeedDate db url.provider = some feedDate ∧
      sd1.routeShape url.provider feedDate routeId = .ok (shapeId :: rest) ∧
      sd1.shapes (shapeSelect url.provider feedDate shapeId) = .ok rows := by
  unfold handleShapes at h
  have hr : truthy (some routeId) = true := by simp [truthy, hne]
  rcases hfd : getLatestFeedDate db url.provider with _ | feedDate
  · simp [hfd] at h
  · simp only [hfd, hshape, hroute, hr, Option.getD_some, if_true, Bool.false_eq_true,
      if_false] at h
    rcases hids : sd1.routeShape url.provider feedDate routeId with e | _ | ⟨shapeId, rest⟩ <;>
      rw [hids] at h
    · cases h
    · cases h
    · refine ⟨feedDate, shapeId, rest, rfl, hids, ?_⟩
      cases hpts : sd1.shapes (shapeSelect url.provider feedDate shapeId) <;>
        simp only [bind, Except.bind, Except.map, hpts] at h <;> cases h
      rfl

/-- **The shapes endpoint and the route line agree.**  Asked for a route, and not for a shape,
`/api/v1/static/shapes` and `/api/v1/geojson/routes` both answer from the shape D1 picks for the
route.  When both answer, the GeoJSON reply is one feature, named by the route asked for, whose
coordinates are the `[lon, lat]` of the points `/shapes` answers, in the same order. -/
theorem shapes_geojson_agree (parseFloat : α → α) (d1 : D1 α) (hd1 : d1.Faithful db)
    (hsd1 : sd1.Faithful db table) (url : SearchParams)
    (hshape : truthy (url.get "shape_id") = false)
    {routeId : String} (hroute : url.get "route_id" = some routeId) (hne : routeId ≠ "")
    {rows : List (ShapeRow α)} (hrows : handleShapes db sd1 url = .ok (.shapes rows))
    {features : List (LineFeature α)}
    (hgeo : handleGeoJSONRoutes parseFloat db d1 sd1 url = .ok (.features features)) :
    features =
      [⟨rows.map fun p => (parseFloat p.shape_pt_lon, parseFloat p.shape_pt_lat), routeId⟩] := by
  obtain ⟨feedDate, shapeId, rest, hfd, hids, hpts⟩ :=
    handleShapes_route hshape hroute hne hrows
  have hr : truthy (some routeId) = true := by simp [truthy, hne]
  unfold handleGeoJSONRoutes at hgeo
  simp only [hfd, hroute, hr, hids, Option.getD_some, if_true, bind, Except.bind] at hgeo
  rcases hc : sd1.shapeCoords (shapeSelect url.provider feedDate shapeId) with _ | coords <;>
    rcases hi : d1.routes (routeInfoSelect url.provider feedDate routeId) with _ | info <;>
    simp only [hc, hi, pure, Except.pure] at hgeo <;> cases hgeo
  rw [routeInfo_route_id hd1 hi, hsd1.shapeCoords_eq hc, ← hsd1.shapes_eq hpts, List.map_map]
  rfl

/-- STM's route 24 on one feed date, with one trip on shape `s24`. -/
def route24 : StaticDb ℚ where
  feedInfo := [⟨"stm", "20251105"⟩]
  routes := [⟨"stm", "20251105", "24", some 3⟩]
  stops := []
  trips := [⟨"stm", "20251105", "24", "t1", some "s24"⟩]
  stopTimes := []
  routes_pk := by unfold PrimaryKey; decide
  stops_pk := List.nodup_nil
  trips_pk := by unfold PrimaryKey; decide
  stopTimes_pk := List.nodup_nil

/-- The two points of `s24`, stored out of sequence order. -/
def shape24 : ShapesTable ℚ where
  rows := [⟨"stm", "20251105", "s24", 46, -74, 2, none⟩,
    ⟨"stm", "20251105", "s24", 45, -73, 1, none⟩]
  pk := by unfold PrimaryKey; decide

/-- Route 24 is drawn from the points `/shapes` answers for it. -/
theorem shapes_geojson_agree_route24 :
    let points := (shapeSelect "stm" "20251105" "s24").run shapeColumn shape24.rows
    handleShapes route24 (ShapeD1.ofDb route24 shape24) [("route_id", "24")] =
        .ok (.shapes points) ∧
      handleGeoJSONRoutes id route24 (D1.ofDb route24) (ShapeD1.ofDb route24 shape24)
          [("route_id", "24")] =
        .ok (.features [⟨(points.map ShapeRow.latLon).map (lonLat id), "24"⟩]) ∧
      [(⟨(points.map ShapeRow.latLon).map (lonLat id), "24"⟩ : LineFeature ℚ)] =
        [⟨points.map fun p => (id p.shape_pt_lon, id p.shape_pt_lat), "24"⟩] :=
  have hrows : handleShapes route24 (ShapeD1.ofDb route24 shape24) [("route_id", "24")] =
      .ok (.shapes ((shapeSelect "stm" "20251105" "s24").run shapeColumn shape24.rows)) := rfl
  have hgeo : handleGeoJSONRoutes id route24 (D1.ofDb route24) (ShapeD1.ofDb route24 shape24)
      [("route_id", "24")] = .ok (.features [⟨(((shapeSelect "stm" "20251105" "s24").run
        shapeColumn shape24.rows).map ShapeRow.latLon).map (lonLat id), "24"⟩]) := rfl
  ⟨hrows, hgeo, shapes_geojson_agree id (D1.ofDb route24) (D1.ofDb_faithful route24)
    (ShapeD1.ofDb_faithful route24 shape24) [("route_id", "24")] rfl rfl (by decide) hrows hgeo⟩

/-- The line of a route and a shape: the shape's points in their order, when it has any. -/
def routeLine (parseFloat : α → α) (table : ShapesTable α) (provider feedDate : String)
    (pair : String × String) : Option (LineFeature α) :=
  let points := (shapeSelect provider feedDate pair.2).run shapeColumn table.rows
  if points.isEmpty then none
  else some ⟨points.map fun p => lonLat parseFloat p.latLon, pair.1⟩

/-- The loop pushes the line of each pair, in the order D1 answers the pairs. -/
theorem routeFeatures_eq (parseFloat : α → α) (hsd1 : sd1.Faithful db table)
    (provider feedDate : String) :
    ∀ {pairs : List (String × String)} {features : List (LineFeature α)},
      routeFeatures parseFloat sd1 provider feedDate pairs = .ok features →
        features = pairs.filterMap (routeLine parseFloat table provider feedDate)
  | [], _, h => by cases h; rfl
  | (routeId, shapeId) :: rest, features, h => by
    simp only [routeFeatures, bind, Except.bind] at h
    rcases hc : sd1.shapeCoords (shapeSelect provider feedDate shapeId) with _ | coords <;>
      simp only [hc] at h
    · cases h
    rcases hr : routeFeatures parseFloat sd1 provider feedDate rest with _ | features' <;>
      simp only [hr, pure, Except.pure] at h <;> cases h
    rw [List.filterMap_cons, ← routeFeatures_eq parseFloat hsd1 provider feedDate hr,
      hsd1.shapeCoords_eq hc]
    simp only [routeLine, List.map_map]
    cases (shapeSelect provider feedDate shapeId).run shapeColumn table.rows <;> rfl

/-- **The lines of every route.**  Without a `route_id`, `/api/v1/geojson/routes` answers, for
the provider's latest feed date, one line for each distinct route and shape that the trips of
routes in `routes` use, when the shape has points, in the order D1 answers the pairs: the
shape's points in `shape_pt_sequence` order.  A route with several such shapes is drawn once for
each. -/
theorem geojsonRoutes_lines (parseFloat : α → α) (d1 : D1 α) (hsd1 : sd1.Faithful db table)
    (url : SearchParams) (hroute : truthy (url.get "route_id") = false)
    {features : List (LineFeature α)}
    (h : handleGeoJSONRoutes parseFloat db d1 sd1 url = .ok (.features features)) :
    match getLatestFeedDate db url.provider with
    | none => features = []
    | some feedDate => ∃ pairs : List (String × String),
        pairs.Perm (routeShapePairs db url.provider feedDate) ∧
        features = pairs.filterMap (routeLine parseFloat table url.provider feedDate) := by
  unfold handleGeoJSONRoutes at h
  rcases hfd : getLatestFeedDate db url.provider with _ | feedDate <;>
    simp only [hfd, hroute, Bool.false_eq_true, if_false] at h ⊢
  · cases h
    rfl
  · rcases hp : sd1.routeShapes url.provider feedDate with _ | pairs <;>
      simp only [hp, bind, Except.bind] at h
    · cases h
    rcases hf : routeFeatures parseFloat sd1 url.provider feedDate pairs with _ | features' <;>
      simp only [hf, Except.map] at h <;> cases h
    exact ⟨pairs, hsd1.routeShapes _ _ _ hp, routeFeatures_eq parseFloat hsd1 _ _ hf⟩

/-- Without a route, `route24` is drawn from its one route and shape. -/
theorem geojsonRoutes_lines_route24 :
    ∃ features, handleGeoJSONRoutes id route24 (D1.ofDb route24) (ShapeD1.ofDb route24 shape24)
        [] = .ok (.features features) ∧
      ∃ pairs : List (String × String), pairs.Perm (routeShapePairs route24 "stm" "20251105") ∧
        features = pairs.filterMap (routeLine id shape24 "stm" "20251105") :=
  ⟨_, rfl, geojsonRoutes_lines id (D1.ofDb route24) (ShapeD1.ofDb_faithful route24 shape24) []
    rfl rfl⟩

end Shapes

end StaticApi

end Transit
