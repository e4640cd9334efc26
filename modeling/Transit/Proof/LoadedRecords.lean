import Mathlib.Data.Int.Order.Basic
import Transit.Framework.Tables
import Transit.Proof.GraphBuild

/-!
# Integrity of the store that `data_loader_load` builds

`csvTable` is what a loader reads of its file; `busStopOf`, `busRouteOf`,
`subwayStationOf` and `routeStopOf` are the records its rows stand for. The
stops, routes and stations of the store are the first of these with their ids
(`Framework.addNew`), and a route's stops are those accepted for it, put behind
one another by `seq` (`Framework.insertBehind`).

* `storeOk_dataLoaderLoad`: the store built from any files is a `StoreOk`.
-/

namespace Transit

open Framework (addNew insertBehind)

variable {D : Type}

/-- The header and the rows below it, if the file can be opened and has the columns required. -/
def csvTable (file : Option (List Byte)) (required : List Str) : Option (CsvRow × List CsvRow) :=
  match file.map (fgetsAll 1024) with
  | some (first :: lines) =>
    let header := csvParseLine first
    if required.all fun name => csvFindHeader header name ≥ 0 then
      some (header, lines.map csvParseLine)
    else none
  | _ => none

/-- The records that the rows of a file stand for, in file order. -/
def csvRecords {α : Type} (file : Option (List Byte)) (required : List Str)
    (record : CsvRow → CsvRow → Option α) : List α :=
  match csvTable file required with
  | some (header, rows) => rows.filterMap (record header)
  | none => []

def busStopOf [CDouble D] (header row : CsvRow) : Option (StopNode D) :=
  let id := column header row (utf8 "stop_id")
  let name := CStr.copy maxNameLen (column header row (utf8 "stop_name"))
  if strIsBlank id then none
  else some
    { stopId := .copy _ id
      stopName :=
        if isPlaceholderStopName name then
          .copy _ (utf8 "정류장명 미상(" ++ (CStr.copy maxIdLen id).val ++ utf8 ")")
        else name
      lat := parseDoubleOrZero (column header row (utf8 "lat"))
      lng := parseDoubleOrZero (column header row (utf8 "lng"))
      district := .copy _ (column header row (utf8 "district")) }

def busRouteOf (header row : CsvRow) : Option RouteNode :=
  let no := column header row (utf8 "route_no")
  if strIsBlank no then none
  else some
    { routeNo := .copy _ no
      routeName := .copy _ (column header row (utf8 "route_name"))
      startStopId := .copy _ (column header row (utf8 "start_stop_id"))
      endStopId := .copy _ (column header row (utf8 "end_stop_id"))
      intervalMin := parseIntOrZero (column header row (utf8 "interval_min"))
      stops := [] }

def subwayStationOf [CDouble D] (header row : CsvRow) : Option (StationNode D) :=
  let id := column header row (utf8 "station_id")
  if strIsBlank id then none
  else some
    { stationId := .copy _ id
      stationName := .copy _ (column header row (utf8 "station_name"))
      lineNo := .copy _ (column header row (utf8 "line_no"))
      lat := parseDoubleOrZero (column header row (utf8 "lat"))
      lng := parseDoubleOrZero (column header row (utf8 "lng"))
      address := .copy _ (column header row (utf8 "address"))
      transferLines := .copy _ (column header row (utf8 "transfer_lines")) }

/-- A row of the route stops is accepted if its route and its stop are loaded. -/
def routeStopOf (data : AppData D) (header row : CsvRow) : Option RouteStopNode :=
  let routeNo := column header row (utf8 "route_no")
  let stopId := column header row (utf8 "stop_id")
  if strIsBlank routeNo || strIsBlank stopId || (findRouteByNo data routeNo).isNone ||
      (findStopById data stopId).isNone then none
  else some
    { routeNo := .copy _ routeNo
      seq := parseIntOrZero (column header row (utf8 "seq"))
      stopId := .copy _ stopId
      direction := .copy _ (column header row (utf8 "direction")) }

/-- A row of the subway distances is accepted if both its stations are loaded. -/
def subwayDistanceOf [CDouble D] (data : AppData D) (header row : CsvRow) : Option (SubwayDistanceNode D) :=
  let fromId := column header row (utf8 "from_station_id")
  let toId := column header row (utf8 "to_station_id")
  let lineNo := column header row (utf8 "line_no")
  let distanceKm := parseDoubleOrZero (column header row (utf8 "distance_km"))
  let estimatedMinutes := parseIntOrZero (column header row (utf8 "estimated_minutes"))
  if strIsBlank fromId || strIsBlank toId then none
  else
    match findStationById data fromId, findStationById data toId with
    | some fromStation, some _ => some
      { fromStationId := .copy _ fromId
        toStationId := .copy _ toId
        lineNo := if strIsBlank lineNo then fromStation.lineNo else .copy _ lineNo
        distanceKm := distanceKm
        estimatedMinutes :=
          if estimatedMinutes ≤ 0 then subwayMinutesFromDistance distanceKm else estimatedMinutes }
    | _, _ => none

def facilityOf [CDouble D] (header row : CsvRow) : Option (FacilityNode D) :=
  let id := column header row (utf8 "facility_id")
  if strIsBlank id then none
  else some
    { facilityId := .copy _ id
      name := .copy _ (column header row (utf8 "name"))
      category := .copy _ (column header row (utf8 "category"))
      nearestNodeId := .copy _ (column header row (utf8 "nearest_node_id"))
      address := .copy _ (column header row (utf8 "address"))
      lat := parseDoubleOrZero (column header row (utf8 "lat"))
      lng := parseDoubleOrZero (column header row (utf8 "lng")) }

def arrivalOf (header row : CsvRow) : Option ArrivalNode := some
  { routeNo := .copy _ (column header row (utf8 "route_no"))
    nodeId := .copy _ (column header row (utf8 "node_id"))
    timeSlot := .copy _ (column header row (utf8 "time_slot"))
    arrivalMinutes := parseIntOrZero (column header row (utf8 "arrival_minutes"))
    status := .copy _ (column header row (utf8 "status")) }

def crowdingOf (header row : CsvRow) : Option CrowdingNode := some
  { routeNo := .copy _ (column header row (utf8 "route_no"))
    nodeId := .copy _ (column header row (utf8 "node_id"))
    timeSlot := .copy _ (column header row (utf8 "time_slot"))
    crowdingLevel := .copy _ (column header row (utf8 "crowding_level")) }

def busStopsRead [CDouble D] (files : CsvFiles) : List (StopNode D) :=
  csvRecords files.busStops [utf8 "stop_id", utf8 "stop_name"] busStopOf

def busRoutesRead (files : CsvFiles) : List RouteNode :=
  csvRecords files.busRoutes [utf8 "route_no", utf8 "start_stop_id", utf8 "end_stop_id"] busRouteOf

def subwayStationsRead [CDouble D] (files : CsvFiles) : List (StationNode D) :=
  csvRecords files.subwayStations [utf8 "station_id", utf8 "station_name", utf8 "line_no"]
    subwayStationOf

def routeStopsAccepted (files : CsvFiles) (data : AppData D) : List RouteStopNode :=
  csvRecords files.routeStops [utf8 "route_no", utf8 "seq", utf8 "stop_id"] (routeStopOf data)

def subwayDistancesAccepted [CDouble D] (files : CsvFiles) (data : AppData D) :
    List (SubwayDistanceNode D) :=
  csvRecords files.subwayDistances [utf8 "from_station_id", utf8 "to_station_id", utf8 "distance_km"]
    (subwayDistanceOf data)

def facilitiesRead [CDouble D] (files : CsvFiles) : List (FacilityNode D) :=
  csvRecords files.facilities [utf8 "facility_id", utf8 "name", utf8 "category", utf8 "nearest_node_id"]
    facilityOf

def arrivalsRead (files : CsvFiles) : List ArrivalNode :=
  csvRecords files.arrivalTest
    [utf8 "route_no", utf8 "node_id", utf8 "time_slot", utf8 "arrival_minutes", utf8 "status"] arrivalOf

def crowdingsRead (files : CsvFiles) : List CrowdingNode :=
  csvRecords files.crowdingTest [utf8 "route_no", utf8 "node_id", utf8 "time_slot", utf8 "crowding_level"]
    crowdingOf

/-- A route as its row gave it, without its stops. -/
def RouteNode.bare (route : RouteNode) : RouteNode := { route with stops := [] }

/-- The store against the files it was loaded from. -/
structure StoreOk [CDouble D] (files : CsvFiles) (data : AppData D) : Prop where
  stops_nodup : (data.stops.map (·.stopId.val)).Nodup
  stops_first : ∀ id, findStopById data id = (busStopsRead files).find? (·.stopId.val == id)
  routes_nodup : (data.routes.map (·.routeNo.val)).Nodup
  routes_first : ∀ no, (findRouteByNo data no).map RouteNode.bare =
    (busRoutesRead files).find? (·.routeNo.val == no)
  stations_nodup : (data.stations.map (·.stationId.val)).Nodup
  stations_first : ∀ id, findStationById data id =
    (subwayStationsRead files).find? (·.stationId.val == id)
  routeStops : ∀ route ∈ data.routes, ∀ rs ∈ route.stops,
    rs.routeNo = route.routeNo ∧ ∃ stop ∈ data.stops, stop.stopId = rs.stopId
  routeStops_sorted : ∀ route ∈ data.routes,
    route.stops = ((routeStopsAccepted files data).filter (·.routeNo.val == route.routeNo.val)).mergeSort
      fun a b => decide (a.seq ≤ b.seq)
  distances : ∀ d ∈ data.subwayDistances,
    (∃ s ∈ data.stations, s.stationId = d.fromStationId) ∧
    (∃ s ∈ data.stations, s.stationId = d.toStationId) ∧ 1 ≤ d.estimatedMinutes

/-! ## Loaders as folds -/

/-- What a row makes of the store, which stays as it is if the row is skipped. -/
def keepRow (row : AppData D → CsvRow → Option (AppData D)) (data : AppData D) (r : CsvRow) : AppData D :=
  (row data r).getD data

theorem loadRows_eq (row : AppData D → CsvRow → Option (AppData D)) (lines : List Str)
    (data : AppData D) :
    (loadRows row lines data).1 = (lines.map csvParseLine).foldl (keepRow row) data := by
  induction lines generalizing data with
  | nil => rfl
  | cons line lines ih =>
    rw [loadRows, List.map_cons, List.foldl_cons]
    cases hr : row data (csvParseLine line) with
    | none => rw [keepRow, hr, Option.getD_none]; exact ih data
    | some data' => rw [keepRow, hr, Option.getD_some]; exact ih data'

/-- A loader whose rows `put` records into the store puts all records of its
file there. `P` is what the store needs for that. -/
theorem loaderResult_records {α : Type} {P : AppData D → Prop}
    {row : CsvRow → AppData D → CsvRow → Option (AppData D)} (record : CsvRow → CsvRow → Option α)
    (put : AppData D → α → AppData D)
    (hrow : ∀ header data r, P data → keepRow (row header) data r = (record header r).elim data (put data))
    (hput : ∀ data x, P data → P (put data x)) {data : AppData D} (hP : P data)
    (file : Option (List Byte)) (required : List Str) (enough : Nat → Bool) :
    (loaderResult data enough (loadCsv file required row data)).1 =
      (csvRecords file required record).foldl put data := by
  have hrows : ∀ header (rows : List CsvRow) (data : AppData D), P data →
      rows.foldl (keepRow (row header)) data = (rows.filterMap (record header)).foldl put data := by
    intro header rows
    induction rows with
    | nil => exact fun _ _ => rfl
    | cons r rows ih =>
      intro data hP
      rw [List.foldl_cons, hrow header data r hP, List.filterMap_cons]
      cases record header r with
      | none => exact ih data hP
      | some x => exact ih _ (hput data x hP)
  cases file with
  | none => rfl
  | some text =>
    simp only [loadCsv, csvRecords, csvTable, Option.map_some]
    cases fgetsAll 1024 text with
    | nil => rfl
    | cons first lines =>
      by_cases hreq : (required.all fun name => csvFindHeader (csvParseLine first) name ≥ 0) = true
      · simp only [if_pos hreq]
        show (loadRows (row (csvParseLine first)) lines data).1 = _
        rw [loadRows_eq, hrows _ _ _ hP]
      · simp only [if_neg hreq]
        rfl

/-! ## Stops, routes and stations -/

def putStop (data : AppData D) (stop : StopNode D) : AppData D :=
  { data with stops := addNew (·.stopId.val) data.stops stop }

def putRoute (data : AppData D) (route : RouteNode) : AppData D :=
  { data with routes := addNew (·.routeNo.val) data.routes route.bare }

def putStation (data : AppData D) (station : StationNode D) : AppData D :=
  { data with stations := addNew (·.stationId.val) data.stations station }

theorem putStop_eq (data : AppData D) (stop : StopNode D) : (some stop).elim data (putStop data) =
    (if (findStopById data stop.stopId).isNone then some (stopAdd data stop) else none).getD data := by
  unfold findStopById stopAdd
  rw [Option.elim_some, putStop, addNew]
  split <;> rfl

theorem putRoute_eq (data : AppData D) (route : RouteNode) : (some route).elim data (putRoute data) =
    (if (findRouteByNo data route.routeNo).isNone then some (routeAdd data route) else none).getD
      data := by
  unfold findRouteByNo routeAdd
  rw [Option.elim_some, putRoute, addNew, RouteNode.bare]
  split <;> rfl

theorem putStation_eq (data : AppData D) (station : StationNode D) :
    (some station).elim data (putStation data) =
    (if (findStationById data station.stationId).isNone then some (stationAdd data station)
      else none).getD data := by
  unfold findStationById stationAdd
  rw [Option.elim_some, putStation, addNew]
  split <;> rfl

theorem keepRow_busStopRow [CDouble D] (header : CsvRow) (data : AppData D) (r : CsvRow) :
    keepRow (busStopRow header) data r = (busStopOf header r).elim data (putStop data) := by
  unfold keepRow busStopRow busStopOf
  by_cases hid : strIsBlank (column header r (utf8 "stop_id")) = true
  · simp only [if_pos hid]
    rfl
  · simp only [if_neg hid]
    symm
    exact putStop_eq data _

theorem keepRow_busRouteRow (header : CsvRow) (data : AppData D) (r : CsvRow) :
    keepRow (busRouteRow header) data r = (busRouteOf header r).elim data (putRoute data) := by
  unfold keepRow busRouteRow busRouteOf
  by_cases hid : strIsBlank (column header r (utf8 "route_no")) = true
  · simp only [if_pos hid]
    rfl
  · simp only [if_neg hid]
    symm
    exact putRoute_eq data _

theorem keepRow_subwayStationRow [CDouble D] (header : CsvRow) (data : AppData D)
    (r : CsvRow) :
    keepRow (subwayStationRow header) data r = (subwayStationOf header r).elim data (putStation data) := by
  unfold keepRow subwayStationRow subwayStationOf
  by_cases hid : strIsBlank (column header r (utf8 "station_id")) = true
  · simp only [if_pos hid]
    rfl
  · simp only [if_neg hid]
    symm
    exact putStation_eq data _

theorem foldl_putStop (stops : List (StopNode D)) (data : AppData D) :
    stops.foldl putStop data =
      { data with stops := stops.foldl (addNew (·.stopId.val)) data.stops } := by
  induction stops generalizing data with
  | nil => rfl
  | cons stop stops ih => exact ih (putStop data stop)

theorem foldl_putRoute (routes : List RouteNode) (data : AppData D) :
    routes.foldl putRoute data =
      { data with routes := (routes.map RouteNode.bare).foldl (addNew (·.routeNo.val)) data.routes } := by
  induction routes generalizing data with
  | nil => rfl
  | cons route routes ih => exact ih (putRoute data route)

theorem foldl_putStation (stations : List (StationNode D)) (data : AppData D) :
    stations.foldl putStation data =
      { data with stations := stations.foldl (addNew (·.stationId.val)) data.stations } := by
  induction stations generalizing data with
  | nil => rfl
  | cons station stations ih => exact ih (putStation data station)

/-! ## The stops of the routes -/

/-- `route_stop_add` to the route a record names. -/
def placeRouteStop (rs : RouteStopNode) (route : RouteNode) : RouteNode :=
  if route.routeNo.val == rs.routeNo.val then routeStopAdd route rs else route

theorem insertRouteStop_eq (rs : RouteStopNode) (stops : List RouteStopNode) :
    insertRouteStop rs stops = insertBehind (·.seq) rs stops := by
  induction stops with
  | nil => rfl
  | cons cur rest ih =>
    unfold insertRouteStop insertBehind
    split
    · rw [ih]
    · rfl

/-- Only one route has the number. -/
theorem addToRoute_eq (rs : RouteStopNode) {routes : List RouteNode}
    (hd : (routes.map (·.routeNo.val)).Nodup) :
    addToRoute rs.routeNo rs routes = routes.map (placeRouteStop rs) := by
  induction routes with
  | nil => rfl
  | cons route rest ih =>
    obtain ⟨hnot, hrest⟩ := List.nodup_cons.mp hd
    unfold addToRoute placeRouteStop
    rw [List.map_cons]
    by_cases hno : (route.routeNo.val == rs.routeNo.val) = true
    · simp only [if_pos hno, List.cons.injEq, true_and]
      refine (List.map_id _).symm.trans (List.map_congr_left fun other hother => ?_)
      have hne : ¬ (other.routeNo.val == rs.routeNo.val) = true := by
        intro h
        exact hnot (List.mem_map.mpr ⟨other, hother, (beq_iff_eq.mp h).trans (beq_iff_eq.mp hno).symm⟩)
      rw [if_neg hne]
      rfl
    · simp only [if_neg hno]
      rw [ih hrest]
      rfl

/-- A route with all stops accepted, one by one. -/
def fillRoute (accepted : List RouteStopNode) (route : RouteNode) : RouteNode :=
  accepted.foldl (fun route rs => placeRouteStop rs route) route

/-- They are its own ones, behind one another by `seq`. -/
theorem fillRoute_eq (accepted : List RouteStopNode) (route : RouteNode) :
    fillRoute accepted route = { route with
      stops := (accepted.filter (·.routeNo.val == route.routeNo.val)).foldl
        (fun stops rs => insertBehind (·.seq) rs stops) route.stops } := by
  induction accepted generalizing route with
  | nil => rfl
  | cons rs accepted ih =>
    unfold fillRoute at ih ⊢
    rw [List.foldl_cons, ih]
    unfold placeRouteStop
    by_cases hno : (route.routeNo.val == rs.routeNo.val) = true
    · have hno' : (rs.routeNo.val == route.routeNo.val) = true := by
        rw [beq_iff_eq] at hno ⊢; exact hno.symm
      have hfilter : (rs :: accepted).filter (·.routeNo.val == route.routeNo.val) =
          rs :: accepted.filter (·.routeNo.val == route.routeNo.val) := List.filter_cons_of_pos hno'
      rw [if_pos hno, hfilter, List.foldl_cons, ← insertRouteStop_eq]
      rfl
    · have hno' : ¬ (rs.routeNo.val == route.routeNo.val) = true := by
        rw [beq_iff_eq] at hno ⊢; exact fun h => hno h.symm
      have hfilter : (rs :: accepted).filter (·.routeNo.val == route.routeNo.val) =
          accepted.filter (·.routeNo.val == route.routeNo.val) := List.filter_cons_of_neg hno'
      rw [if_neg hno, hfilter]

/-- Filling routes keeps their numbers. -/
theorem routeNos_placed (rs : RouteStopNode) (routes : List RouteNode) :
    (routes.map (placeRouteStop rs)).map (·.routeNo.val) = routes.map (·.routeNo.val) := by
  rw [List.map_map]
  refine List.map_congr_left fun route _ => ?_
  show (placeRouteStop rs route).routeNo.val = route.routeNo.val
  unfold placeRouteStop
  split <;> rfl

def putRouteStop (data : AppData D) (rs : RouteStopNode) : AppData D :=
  { data with routes := data.routes.map (placeRouteStop rs) }

/-- The store while the route stops are read: `data` but for the stops of its routes. -/
structure SameRoutes (data data' : AppData D) : Prop where
  stops : data'.stops = data.stops
  routeNos : data'.routes.map (·.routeNo.val) = data.routes.map (·.routeNo.val)

theorem SameRoutes.putRouteStop {data data' : AppData D} (h : SameRoutes data data')
    (rs : RouteStopNode) : SameRoutes data (putRouteStop data' rs) where
  stops := h.stops
  routeNos := (routeNos_placed rs data'.routes).trans h.routeNos

theorem findRouteByNo_some {data : AppData D} {no : Str} {route : RouteNode}
    (h : findRouteByNo data no = some route) : route ∈ data.routes ∧ route.routeNo.val = no := by
  unfold findRouteByNo at h
  exact ⟨List.mem_of_find?_eq_some h, by simpa using List.find?_some h⟩

theorem findStopById_some {data : AppData D} {id : Str} {stop : StopNode D}
    (h : findStopById data id = some stop) : stop ∈ data.stops ∧ stop.stopId.val = id := by
  unfold findStopById at h
  exact ⟨List.mem_of_find?_eq_some h, by simpa using List.find?_some h⟩

theorem findStationById_some {data : AppData D} {id : Str} {station : StationNode D}
    (h : findStationById data id = some station) :
    station ∈ data.stations ∧ station.stationId.val = id := by
  unfold findStationById at h
  exact ⟨List.mem_of_find?_eq_some h, by simpa using List.find?_some h⟩

theorem findRouteByNo_isNone (data : AppData D) (no : Str) :
    (findRouteByNo data no).isNone = !(data.routes.map (·.routeNo.val)).contains no := by
  cases hf : findRouteByNo data no with
  | none =>
    have hnot : no ∉ data.routes.map (·.routeNo.val) := by
      intro hm
      obtain ⟨route, hroute, rfl⟩ := List.mem_map.mp hm
      exact List.find?_eq_none.mp hf route hroute (beq_self_eq_true _)
    rw [List.contains_eq_mem, decide_eq_false hnot]
    rfl
  | some route =>
    have hmem : no ∈ data.routes.map (·.routeNo.val) :=
      List.mem_map.mpr ⟨route, findRouteByNo_some hf⟩
    rw [List.contains_eq_mem, decide_eq_true hmem]
    rfl

theorem SameRoutes.routeStopOf {data data' : AppData D} (h : SameRoutes data data') :
    routeStopOf data' = routeStopOf data := by
  funext header row
  unfold Transit.routeStopOf findStopById
  simp only [findRouteByNo_isNone, h.stops, h.routeNos]

/-- The number that a row gives for a route found is the route's own, uncut. -/
theorem length_of_findRouteByNo {data : AppData D} {no : Str} (h : ¬ (findRouteByNo data no).isNone) :
    no.length ≤ maxRouteLen - 1 := by
  cases hf : findRouteByNo data no with
  | none => rw [hf] at h; exact absurd rfl h
  | some route =>
    exact (findRouteByNo_some hf).2 ▸ route.routeNo.2

theorem keepRow_routeStopRow {data : AppData D} (hd : (data.routes.map (·.routeNo.val)).Nodup)
    (header : CsvRow) {data' : AppData D} (r : CsvRow) (h : SameRoutes data data') :
    keepRow (routeStopRow header) data' r =
      (routeStopOf data header r).elim data' (putRouteStop data') := by
  rw [← h.routeStopOf]
  unfold keepRow routeStopRow Transit.routeStopOf
  by_cases hblank : (strIsBlank (column header r (utf8 "route_no")) ||
      strIsBlank (column header r (utf8 "stop_id"))) = true
  · simp only [hblank, Bool.true_or, ↓reduceIte]
    rfl
  · rw [Bool.not_eq_true] at hblank
    simp only [hblank, Bool.false_eq_true, ↓reduceIte, Bool.false_or]
    by_cases hfound : ((findRouteByNo data' (column header r (utf8 "route_no"))).isNone ||
        (findStopById data' (column header r (utf8 "stop_id"))).isNone) = true
    · simp only [if_pos hfound]
      rfl
    · simp only [if_neg hfound, Option.getD_some, Option.elim_some, putRouteStop]
      have hno : (CStr.copy maxRouteLen (column header r (utf8 "route_no"))).val =
          column header r (utf8 "route_no") := by
        apply CStr.copy_of_le
        have hroute : ¬ (findRouteByNo data' (column header r (utf8 "route_no"))).isNone :=
          fun hn => hfound (by rw [hn, Bool.true_or])
        exact length_of_findRouteByNo hroute
      have hplaced := addToRoute_eq
        { routeNo := .copy _ (column header r (utf8 "route_no"))
          seq := parseIntOrZero (column header r (utf8 "seq"))
          stopId := .copy _ (column header r (utf8 "stop_id"))
          direction := .copy _ (column header r (utf8 "direction")) } (h.routeNos ▸ hd)
      rw [← hplaced]
      simp only [hno]

theorem foldl_putRouteStop (accepted : List RouteStopNode) (data : AppData D) :
    accepted.foldl putRouteStop data = { data with routes := data.routes.map (fillRoute accepted) } := by
  induction accepted generalizing data with
  | nil =>
    show data = { data with routes := data.routes.map id }
    rw [List.map_id]
  | cons rs accepted ih =>
    rw [List.foldl_cons, ih]
    simp only [putRouteStop, List.map_map]
    rfl

/-! ## The other files -/

theorem keepRow_subwayDistanceRow [CDouble D] {data : AppData D} (header : CsvRow) {data' : AppData D}
    (r : CsvRow) (h : data'.stations = data.stations) :
    keepRow (subwayDistanceRow header) data' r =
      (subwayDistanceOf data header r).elim data' (subwayDistanceAdd data') := by
  unfold keepRow subwayDistanceRow subwayDistanceOf findStationById
  rw [h]
  by_cases hblank : (strIsBlank (column header r (utf8 "from_station_id")) ||
      strIsBlank (column header r (utf8 "to_station_id"))) = true
  · simp only [if_pos hblank]
    rfl
  · simp only [if_neg hblank]
    cases data.stations.find? (·.stationId.val == column header r (utf8 "from_station_id")) with
    | none => rfl
    | some fromStation =>
      cases data.stations.find? (·.stationId.val == column header r (utf8 "to_station_id")) with
      | none => rfl
      | some toStation => rfl

theorem keepRow_facilityRow [CDouble D] (header : CsvRow) (data : AppData D) (r : CsvRow) :
    keepRow (facilityRow header) data r = (facilityOf header r).elim data (facilityAdd data) := by
  unfold keepRow facilityRow facilityOf
  by_cases hid : strIsBlank (column header r (utf8 "facility_id")) = true
  · simp only [if_pos hid]
    rfl
  · simp only [if_neg hid]
    rfl

theorem foldl_subwayDistanceAdd (distances : List (SubwayDistanceNode D)) (data : AppData D) :
    distances.foldl subwayDistanceAdd data =
      { data with subwayDistances := distances.reverse ++ data.subwayDistances } := by
  induction distances generalizing data with
  | nil => rfl
  | cons d ds ih => rw [List.foldl_cons, ih, List.reverse_cons, List.append_assoc]; rfl

theorem foldl_facilityAdd (facilities : List (FacilityNode D)) (data : AppData D) :
    facilities.foldl facilityAdd data =
      { data with facilities := facilities.reverse ++ data.facilities } := by
  induction facilities generalizing data with
  | nil => rfl
  | cons f fs ih => rw [List.foldl_cons, ih, List.reverse_cons, List.append_assoc]; rfl

theorem foldl_arrivalAdd (arrivals : List ArrivalNode) (data : AppData D) :
    arrivals.foldl arrivalAdd data = { data with arrivals := arrivals.reverse ++ data.arrivals } := by
  induction arrivals generalizing data with
  | nil => rfl
  | cons x xs ih => rw [List.foldl_cons, ih, List.reverse_cons, List.append_assoc]; rfl

theorem foldl_crowdingAdd (crowdings : List CrowdingNode) (data : AppData D) :
    crowdings.foldl crowdingAdd data = { data with crowdings := crowdings.reverse ++ data.crowdings } := by
  induction crowdings generalizing data with
  | nil => rfl
  | cons x xs ih => rw [List.foldl_cons, ih, List.reverse_cons, List.append_assoc]; rfl

/-! ## Every loader in closed form -/

/-- A record stands for a line that was read. -/
theorem line_of_mem_csvRecords {α : Type} {file : Option (List Byte)} {required : List Str}
    {record : CsvRow → CsvRow → Option α} {x : α} (h : x ∈ csvRecords file required record) :
    ∃ header line, record header (csvParseLine (cstr line)) = some x := by
  unfold csvRecords csvTable at h
  cases hlines : file.map (fgetsAll 1024) with
  | none =>
    rw [hlines] at h
    cases h
  | some lines =>
    cases lines with
    | nil =>
      rw [hlines] at h
      cases h
    | cons first lines =>
      rw [hlines] at h
      dsimp only at h
      split at h
      · rename_i htable
        split at htable
        · cases htable
          obtain ⟨row, hrow, hx⟩ := List.mem_filterMap.mp h
          obtain ⟨line, hline, rfl⟩ := List.mem_map.mp hrow
          obtain ⟨text, -, hread⟩ := Option.map_eq_some_iff.mp hlines
          obtain ⟨chunk, -, rfl⟩ := List.mem_map.mp (hread.symm ▸ List.mem_cons_of_mem _ hline)
          exact ⟨_, chunk, hx⟩
        · cases htable
      · cases h

theorem mem_csvRecords {α : Type} {file : Option (List Byte)} {required : List Str}
    {record : CsvRow → CsvRow → Option α} {x : α} (h : x ∈ csvRecords file required record) :
    ∃ header row, record header row = some x := by
  obtain ⟨header, line, hx⟩ := line_of_mem_csvRecords h
  exact ⟨header, csvParseLine (cstr line), hx⟩

section

variable (files : CsvFiles) (data : AppData D)

theorem loadBusStops_eq [CDouble D] : (loadBusStops files.busStops data).1 =
    { data with stops := (busStopsRead files).foldl (addNew (·.stopId.val)) data.stops } := by
  refine (loaderResult_records (P := fun _ => True) busStopOf putStop
    (fun header data r _ => keepRow_busStopRow header data r) (fun _ _ _ => trivial) trivial ..).trans ?_
  exact foldl_putStop _ _

theorem busRoutesRead_stops {files : CsvFiles} {route : RouteNode} (h : route ∈ busRoutesRead files) :
    route.stops = [] := by
  obtain ⟨header, row, hrow⟩ := mem_csvRecords h
  simp only [busRouteOf] at hrow
  split at hrow
  · cases hrow
  · cases hrow
    rfl

theorem RouteNode.bare_eq {route : RouteNode} (h : route.stops = []) : route.bare = route := by
  unfold RouteNode.bare
  rw [← h]

theorem loadBusRoutes_eq : (loadBusRoutes files.busRoutes data).1 =
    { data with routes := (busRoutesRead files).foldl (addNew (·.routeNo.val)) data.routes } := by
  have hbare : (busRoutesRead files).map RouteNode.bare = busRoutesRead files :=
    (List.map_congr_left fun route hr => RouteNode.bare_eq (busRoutesRead_stops hr)).trans (List.map_id _)
  refine (loaderResult_records (P := fun _ => True) busRouteOf putRoute
    (fun header data r _ => keepRow_busRouteRow header data r) (fun _ _ _ => trivial) trivial ..).trans ?_
  refine (foldl_putRoute _ _).trans ?_
  rw [← hbare]
  rfl

theorem loadRouteStops_eq (hd : (data.routes.map (·.routeNo.val)).Nodup) :
    (loadRouteStops files.routeStops data).1 =
      { data with routes := data.routes.map (fillRoute (routeStopsAccepted files data)) } := by
  refine (loaderResult_records (P := SameRoutes data) (routeStopOf data) putRouteStop
    (fun header _ r h => keepRow_routeStopRow hd header r h) (fun _ _ h => h.putRouteStop _)
    ⟨rfl, rfl⟩ ..).trans ?_
  exact foldl_putRouteStop _ _

theorem loadSubwayStations_eq [CDouble D] : (loadSubwayStations files.subwayStations data).1 =
    { data with stations := (subwayStationsRead files).foldl (addNew (·.stationId.val)) data.stations } := by
  refine (loaderResult_records (P := fun _ => True) subwayStationOf putStation
    (fun header data r _ => keepRow_subwayStationRow header data r) (fun _ _ _ => trivial) trivial ..).trans ?_
  exact foldl_putStation _ _

theorem loadSubwayDistances_eq [CDouble D] : (loadSubwayDistances files.subwayDistances data).1 =
    { data with
      subwayDistances := (subwayDistancesAccepted files data).reverse ++ data.subwayDistances } := by
  refine (loaderResult_records (P := fun data' => data'.stations = data.stations)
    (subwayDistanceOf data) subwayDistanceAdd
    (fun header _ r h => keepRow_subwayDistanceRow header r h) (fun _ _ h => h) rfl ..).trans ?_
  exact foldl_subwayDistanceAdd _ _

theorem loadFacilities_eq [CDouble D] : (loadFacilities files.facilities data).1 =
    { data with facilities := (facilitiesRead files).reverse ++ data.facilities } := by
  refine (loaderResult_records (P := fun _ => True) facilityOf facilityAdd
    (fun header data r _ => keepRow_facilityRow header data r) (fun _ _ _ => trivial) trivial ..).trans ?_
  exact foldl_facilityAdd _ _

theorem loadArrivals_eq : (loadArrivals files.arrivalTest data).1 =
    { data with arrivals := (arrivalsRead files).reverse ++ data.arrivals } := by
  refine (loaderResult_records (P := fun _ => True) arrivalOf arrivalAdd
    (fun _ _ _ _ => rfl) (fun _ _ _ => trivial) trivial ..).trans ?_
  exact foldl_arrivalAdd _ _

theorem loadCrowdings_eq : (loadCrowdings files.crowdingTest data).1 =
    { data with crowdings := (crowdingsRead files).reverse ++ data.crowdings } := by
  refine (loaderResult_records (P := fun _ => True) crowdingOf crowdingAdd
    (fun _ _ _ _ => rfl) (fun _ _ _ => trivial) trivial ..).trans ?_
  exact foldl_crowdingAdd _ _

end

/-! ## The whole store -/

/-- The stops, bare routes and stations that the files describe. -/
def networkBase [CDouble D] (files : CsvFiles) : AppData D :=
  { appDataInit with
    stops := (busStopsRead files).foldl (addNew (·.stopId.val)) []
    routes := (busRoutesRead files).foldl (addNew (·.routeNo.val)) []
    stations := (subwayStationsRead files).foldl (addNew (·.stationId.val)) [] }

/-- All records that the files describe. -/
def recordsOf [CDouble D] (files : CsvFiles) : AppData D :=
  let data : AppData D := networkBase files
  { data with
    routes := data.routes.map (fillRoute (routeStopsAccepted files data))
    subwayDistances := (subwayDistancesAccepted files data).reverse
    facilities := (facilitiesRead files).reverse
    arrivals := (arrivalsRead files).reverse
    crowdings := (crowdingsRead files).reverse }

theorem nodup_routeNos [CDouble D] (files : CsvFiles) :
    ((networkBase files : AppData D).routes.map (·.routeNo.val)).Nodup :=
  Framework.nodup_foldl_addNew _ _ List.nodup_nil

theorem networkBase_bare [CDouble D] (files : CsvFiles) :
    ∀ r ∈ (networkBase files : AppData D).routes, r.stops = [] := by
  intro r hr
  rcases Framework.mem_foldl_addNew _ hr with hr | hr
  · cases hr
  · exact busRoutesRead_stops hr

/-- What the loaders read are these records. -/
theorem loadRecords_eq [CDouble D] (files : CsvFiles) : (loadRecords files : AppData D) = recordsOf files := by
  have hd := nodup_routeNos (D := D) files
  unfold loadRecords
  dsimp only
  rw [loadBusStops_eq, loadBusRoutes_eq, loadRouteStops_eq, loadSubwayStations_eq, loadSubwayDistances_eq,
    loadFacilities_eq, loadArrivals_eq, loadCrowdings_eq]
  · simp only [appDataInit, List.append_nil]
    rfl
  · exact hd

/-- The store the server works on. -/
def loadedData [CDouble D] (files : CsvFiles) : AppData D := (dataLoaderLoad files).1

theorem graphOk_loadedData [CDouble D] (files : CsvFiles) : GraphOk (loadedData files : AppData D).graph := by
  have hg := (loading_loadRecords (D := D) files).graph
  unfold loadedData
  rw [dataLoaderLoad_eq]
  exact (merged_buildGraph hg).ok

/-- The graph is all that is added. -/
theorem dataLoaderLoad_records [CDouble D] (files : CsvFiles) :
    ∃ g, (dataLoaderLoad files : AppData D × Bool).1 = { recordsOf files with graph := g } := by
  refine ⟨(dataLoaderLoad files : AppData D × Bool).1.graph, ?_⟩
  rw [← loadRecords_eq, dataLoaderLoad_eq]
  rfl

theorem fillRoute_routeNo (accepted : List RouteStopNode) (route : RouteNode) :
    (fillRoute accepted route).routeNo = route.routeNo := by
  rw [fillRoute_eq]

/-- Filling the routes does not change which one is found. -/
theorem find?_fillRoute (accepted : List RouteStopNode) (routes : List RouteNode) (no : Str) :
    ((routes.map (fillRoute accepted)).find? (·.routeNo.val == no)).map RouteNode.bare =
      (routes.find? (·.routeNo.val == no)).map RouteNode.bare := by
  rw [List.find?_map]
  simp only [Function.comp_def, fillRoute_routeNo, Option.map_map]
  congr 1
  funext route
  simp only [fillRoute_eq, RouteNode.bare]

/-- The stops of a filled route are the stable sort of those accepted for it. -/
theorem fillRoute_stops (accepted : List RouteStopNode) {route : RouteNode} (h : route.stops = []) :
    (fillRoute accepted route).stops =
      (accepted.filter (·.routeNo.val == route.routeNo.val)).mergeSort
        fun a b => decide (a.seq ≤ b.seq) := by
  rw [fillRoute_eq, h]
  exact Framework.foldl_insertBehind _

/-- An accepted row names a loaded stop, uncut. -/
theorem stop_of_routeStopOf {data : AppData D} {header row : CsvRow} {rs : RouteStopNode}
    (h : routeStopOf data header row = some rs) : ∃ stop ∈ data.stops, stop.stopId = rs.stopId := by
  simp only [routeStopOf] at h
  split at h
  · cases h
  · rename_i hcond
    cases h
    cases hf : findStopById data (column header row (utf8 "stop_id")) with
    | none => simp [hf] at hcond
    | some stop =>
      obtain ⟨hmem, hid⟩ := findStopById_some hf
      refine ⟨stop, hmem, Subtype.ext ?_⟩
      rw [CStr.copy_of_le (hid ▸ stop.stopId.2), hid]

theorem stationId_copy {data : AppData D} {id : Str} {station : StationNode D}
    (h : findStationById data id = some station) : station.stationId = .copy _ id := by
  apply Subtype.ext
  have hid := (findStationById_some h).2
  rw [CStr.copy_of_le (hid ▸ station.stationId.2), hid]

/-- An accepted distance names loaded stations and takes at least a minute. -/
theorem distance_of_subwayDistanceOf [CDouble D] {data : AppData D} {header row : CsvRow}
    {d : SubwayDistanceNode D} (h : subwayDistanceOf data header row = some d) :
    (∃ s ∈ data.stations, s.stationId = d.fromStationId) ∧
    (∃ s ∈ data.stations, s.stationId = d.toStationId) ∧ 1 ≤ d.estimatedMinutes := by
  simp only [subwayDistanceOf] at h
  split at h
  · cases h
  · split at h
    · rename_i fromStation toStation hfrom hto
      simp only [Option.some.injEq] at h
      subst h
      refine ⟨⟨fromStation, (findStationById_some hfrom).1, stationId_copy hfrom⟩,
        ⟨toStation, (findStationById_some hto).1, stationId_copy hto⟩, ?_⟩
      dsimp only
      split
      · exact subwayMinutesFromDistance_pos _
      · omega
    · cases h

/-- Integrity of the store built from any files, whatever the loader returns. -/
theorem storeOk_dataLoaderLoad [CDouble D] (files : CsvFiles) :
    StoreOk files (dataLoaderLoad files : AppData D × Bool).1 := by
  obtain ⟨g, hdata⟩ := dataLoaderLoad_records (D := D) files
  rw [hdata]
  have hbare := networkBase_bare (D := D) files
  have hnos : (recordsOf files : AppData D).routes.map (·.routeNo.val) =
      (networkBase files : AppData D).routes.map (·.routeNo.val) := by
    rw [recordsOf, List.map_map]
    exact List.map_congr_left fun route _ => congrArg Subtype.val (fillRoute_routeNo _ route)
  have hsame : SameRoutes (networkBase files) { (recordsOf files : AppData D) with graph := g } := ⟨rfl, hnos⟩
  have haccepted : routeStopsAccepted files { (recordsOf files : AppData D) with graph := g } =
      routeStopsAccepted files (networkBase files : AppData D) := by
    rw [routeStopsAccepted, routeStopsAccepted, hsame.routeStopOf]
  have hsorted : ∀ route ∈ (recordsOf files : AppData D).routes,
      route.stops = ((routeStopsAccepted files { (recordsOf files : AppData D) with graph := g }).filter
        (·.routeNo.val == route.routeNo.val)).mergeSort fun a b => decide (a.seq ≤ b.seq) := by
    intro route hroute
    rw [haccepted]
    obtain ⟨r, hr, rfl⟩ := List.mem_map.mp hroute
    rw [fillRoute_stops _ (hbare r hr), fillRoute_routeNo]
  refine ⟨?_, fun id => ?_, ?_, fun no => ?_, ?_, fun id => ?_, fun route hroute rs hrs => ?_, hsorted,
    fun d hd => ?_⟩
  · exact Framework.nodup_foldl_addNew _ _ List.nodup_nil
  · exact Framework.find?_foldl_addNew _ _ _ id
  · exact hnos ▸ nodup_routeNos (D := D) files
  · have hfind := Framework.find?_foldl_addNew (fun route : RouteNode => route.routeNo.val)
      (busRoutesRead files) [] no
    rw [List.find?_nil, Option.none_or] at hfind
    refine (find?_fillRoute _ _ no).trans ?_
    rw [networkBase, hfind]
    cases hf : (busRoutesRead files).find? (·.routeNo.val == no) with
    | none => rfl
    | some route =>
      exact congrArg some (RouteNode.bare_eq (busRoutesRead_stops (List.mem_of_find?_eq_some hf)))
  · exact Framework.nodup_foldl_addNew _ _ List.nodup_nil
  · exact Framework.find?_foldl_addNew _ _ _ id
  · rw [hsorted route hroute, List.mem_mergeSort] at hrs
    obtain ⟨hacc, hno⟩ := List.mem_filter.mp hrs
    obtain ⟨header, row, hrow⟩ := mem_csvRecords hacc
    exact ⟨Subtype.ext (beq_iff_eq.mp hno), stop_of_routeStopOf hrow⟩
  · obtain ⟨header, row, hrow⟩ := mem_csvRecords (List.mem_reverse.mp hd)
    exact distance_of_subwayDistanceOf hrow

end Transit
