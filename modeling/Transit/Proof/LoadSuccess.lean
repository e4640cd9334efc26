import Transit.Proof.LoadedRecords

/-!
# When `data_loader_load` returns 1

A loader that needs a row returns 1 as soon as one changes the store
(`loaderResult_changed`). So the whole loader does when the files give at least
one record of every kind that must not be missing (`FilesOk`).

* `dataLoaderLoad_ok`: such files load without an error.
-/

namespace Transit

variable {D : Type}

theorem loadRows_of_zero {row : AppData D → CsvRow → Option (AppData D)} {lines : List Str}
    {data : AppData D} (h : (loadRows row lines data).2 = 0) : (loadRows row lines data).1 = data := by
  induction lines generalizing data with
  | nil => rfl
  | cons line lines ih =>
    rw [loadRows] at h ⊢
    cases hr : row data (csvParseLine line) with
    | none =>
      rw [hr] at h
      exact ih h
    | some data' =>
      rw [hr] at h
      cases h

/-- What every row that is kept brings about holds once a row has been kept. -/
theorem loadRows_of_pos {row : AppData D → CsvRow → Option (AppData D)} {P : AppData D → Prop}
    (hrow : ∀ {data r data'}, row data r = some data' → P data') {lines : List Str} {data : AppData D}
    (h : 0 < (loadRows row lines data).2) : P (loadRows row lines data).1 := by
  induction lines generalizing data with
  | nil => cases h
  | cons line lines ih =>
    rw [loadRows] at h ⊢
    cases hr : row data (csvParseLine line) with
    | none =>
      rw [hr] at h
      exact ih h
    | some data' =>
      dsimp only
      rcases Nat.eq_zero_or_pos (loadRows row lines data').2 with hzero | hpos
      · rw [loadRows_of_zero hzero]
        exact hrow hr
      · exact ih hpos

theorem loaderResult_of_pos {file : Option (List Byte)} {required : List Str}
    {row : CsvRow → AppData D → CsvRow → Option (AppData D)} {P : AppData D → Prop}
    (hrow : ∀ {header data r data'}, row header data r = some data' → P data') {data : AppData D}
    (h : (loaderResult data (· > 0) (loadCsv file required row data)).2 = true) :
    P (loaderResult data (· > 0) (loadCsv file required row data)).1 := by
  cases hcsv : loadCsv file required row data with
  | none =>
    rw [hcsv] at h
    cases h
  | some result =>
    rw [hcsv] at h
    unfold loadCsv at hcsv
    split at hcsv
    · cases hcsv
    · split at hcsv
      · cases hcsv
      · dsimp only at hcsv
        split at hcsv
        · cases hcsv
          exact loadRows_of_pos hrow (of_decide_eq_true h)
        · cases hcsv

/-- A loader that has changed the store has loaded a row. -/
theorem loaderResult_changed {file : Option (List Byte)} {required : List Str}
    {row : CsvRow → AppData D → CsvRow → Option (AppData D)} {data : AppData D}
    (h : (loaderResult data (· > 0) (loadCsv file required row data)).1 ≠ data) :
    (loaderResult data (· > 0) (loadCsv file required row data)).2 = true := by
  cases file with
  | none => exact absurd rfl h
  | some text =>
    simp only [loadCsv] at h ⊢
    cases htext : fgetsAll 1024 text with
    | nil =>
      rw [htext] at h
      exact absurd rfl h
    | cons first lines =>
      rw [htext] at h
      by_cases hreq : (required.all fun name => csvFindHeader (csvParseLine first) name ≥ 0) = true
      · simp only [if_pos hreq] at h ⊢
        have hpos : (loadRows (row (csvParseLine first)) lines data).2 ≠ 0 := fun hz => h (loadRows_of_zero hz)
        exact decide_eq_true (Nat.pos_of_ne_zero hpos)
      · simp only [if_neg hreq] at h
        exact absurd rfl h

/-- A loader that needs no row only needs its columns. -/
theorem loaderResult_any {file : Option (List Byte)} {required : List Str}
    {row : CsvRow → AppData D → CsvRow → Option (AppData D)} {data : AppData D}
    (h : (csvTable file required).isSome) :
    (loaderResult data (· ≥ 0) (loadCsv file required row data)).2 = true := by
  cases file with
  | none => cases h
  | some text =>
    simp only [csvTable, Option.map_some] at h
    simp only [loadCsv]
    cases htext : fgetsAll 1024 text with
    | nil =>
      rw [htext] at h
      cases h
    | cons first lines =>
      rw [htext] at h
      by_cases hreq : (required.all fun name => csvFindHeader (csvParseLine first) name ≥ 0) = true
      · simp only [if_pos hreq]
        rfl
      · simp only [if_neg hreq] at h
        cases h

/-- The files give at least a stop, a route, a stop of a route, a station and a
distance, and the other files can be read. -/
structure FilesOk (D : Type) [CDouble D] (files : CsvFiles) : Prop where
  stops : busStopsRead files ≠ ([] : List (StopNode D))
  routes : busRoutesRead files ≠ []
  routeStops : routeStopsAccepted files (networkBase files : AppData D) ≠ []
  stations : subwayStationsRead files ≠ ([] : List (StationNode D))
  distances : subwayDistancesAccepted files (networkBase files : AppData D) ≠ []
  facilities : (csvTable files.facilities
    [utf8 "facility_id", utf8 "name", utf8 "category", utf8 "nearest_node_id"]).isSome
  arrivals : (csvTable files.arrivalTest
    [utf8 "route_no", utf8 "node_id", utf8 "time_slot", utf8 "arrival_minutes", utf8 "status"]).isSome
  crowdings : (csvTable files.crowdingTest
    [utf8 "route_no", utf8 "node_id", utf8 "time_slot", utf8 "crowding_level"]).isSome

/-- The route of an accepted stop is no longer empty. -/
theorem fillRoute_ne {data : AppData D} {files : CsvFiles} (h : routeStopsAccepted files data ≠ [])
    (hbare : ∀ r ∈ data.routes, r.stops = []) :
    data.routes.map (fillRoute (routeStopsAccepted files data)) ≠ data.routes := by
  intro heq
  obtain ⟨rs, hrs⟩ := List.exists_mem_of_ne_nil _ h
  obtain ⟨header, row, hrow⟩ := mem_csvRecords hrs
  obtain ⟨route, hroute, hno⟩ : ∃ route ∈ data.routes, route.routeNo = rs.routeNo := by
    simp only [routeStopOf] at hrow
    split at hrow
    · cases hrow
    · rename_i hcond
      cases hrow
      cases hf : findRouteByNo data (column header row (utf8 "route_no")) with
      | none => simp [hf] at hcond
      | some route =>
        obtain ⟨hmem, hno⟩ := findRouteByNo_some hf
        refine ⟨route, hmem, Subtype.ext ?_⟩
        rw [CStr.copy_of_le (hno ▸ route.routeNo.2), hno]
  have hfilled := hbare _ (heq ▸ List.mem_map_of_mem hroute)
  rw [fillRoute_stops _ (hbare route hroute)] at hfilled
  have hmem : rs ∈ ((routeStopsAccepted files data).filter (·.routeNo.val == route.routeNo.val)).mergeSort
      fun a b => decide (a.seq ≤ b.seq) :=
    List.mem_mergeSort.mpr (List.mem_filter.mpr ⟨hrs, by simp [hno]⟩)
  rw [hfilled] at hmem
  cases hmem

/-! ## One loader -/

section

variable {files : CsvFiles} {data : AppData D}

theorem loadBusStops_ok [CDouble D] (hdata : data.stops = []) (h : busStopsRead files ≠ ([] : List (StopNode D))) :
    (loadBusStops files.busStops data).2 = true := by
  apply loaderResult_changed
  show (loadBusStops files.busStops data).1 ≠ data
  rw [loadBusStops_eq, hdata]
  intro heq
  exact Framework.foldl_addNew_ne_nil _ h [] ((congrArg AppData.stops heq).trans hdata)

theorem loadBusRoutes_ok (hdata : data.routes = []) (h : busRoutesRead files ≠ []) :
    (loadBusRoutes files.busRoutes data).2 = true := by
  apply loaderResult_changed
  show (loadBusRoutes files.busRoutes data).1 ≠ data
  rw [loadBusRoutes_eq, hdata]
  intro heq
  exact Framework.foldl_addNew_ne_nil _ h [] ((congrArg AppData.routes heq).trans hdata)

theorem loadRouteStops_ok (hd : (data.routes.map (·.routeNo.val)).Nodup) (hbare : ∀ r ∈ data.routes, r.stops = [])
    (h : routeStopsAccepted files data ≠ []) : (loadRouteStops files.routeStops data).2 = true := by
  apply loaderResult_changed
  show (loadRouteStops files.routeStops data).1 ≠ data
  rw [loadRouteStops_eq files data hd]
  intro heq
  exact fillRoute_ne h hbare (congrArg AppData.routes heq)

theorem loadSubwayStations_ok [CDouble D] (hdata : data.stations = [])
    (h : subwayStationsRead files ≠ ([] : List (StationNode D))) :
    (loadSubwayStations files.subwayStations data).2 = true := by
  apply loaderResult_changed
  show (loadSubwayStations files.subwayStations data).1 ≠ data
  rw [loadSubwayStations_eq, hdata]
  intro heq
  exact Framework.foldl_addNew_ne_nil _ h [] ((congrArg AppData.stations heq).trans hdata)

theorem loadSubwayDistances_ok [CDouble D] (hdata : data.subwayDistances = [])
    (h : subwayDistancesAccepted files data ≠ []) : (loadSubwayDistances files.subwayDistances data).2 = true := by
  apply loaderResult_changed
  show (loadSubwayDistances files.subwayDistances data).1 ≠ data
  rw [loadSubwayDistances_eq, hdata, List.append_nil]
  intro heq
  exact h (List.reverse_eq_nil_iff.mp ((congrArg AppData.subwayDistances heq).trans hdata))

end

/-! ## All of them -/

theorem dataLoaderLoad_ok [CDouble D] {files : CsvFiles} (h : FilesOk D files) :
    (dataLoaderLoad files : AppData D × Bool).2 = true := by
  have hd := nodup_routeNos (D := D) files
  have hgraph := (loading_loadRecords (D := D) files).graph
  -- the store before each loader
  have e1 := loadBusStops_eq files (appDataInit : AppData D)
  generalize hd1 : (loadBusStops files.busStops (appDataInit : AppData D)).1 = d1 at e1
  have e2 := loadBusRoutes_eq files d1
  generalize hd2 : (loadBusRoutes files.busRoutes d1).1 = d2 at e2
  have e3 := loadRouteStops_eq files d2 (by rw [e2, e1]; exact hd)
  generalize hd3 : (loadRouteStops files.routeStops d2).1 = d3 at e3
  have e4 := loadSubwayStations_eq files d3
  generalize hd4 : (loadSubwayStations files.subwayStations d3).1 = d4 at e4
  have hall : (dataLoaderLoad files : AppData D × Bool).2 =
      let d5 := (loadSubwayDistances files.subwayDistances d4).1
      let d6 := (loadFacilities files.facilities d5).1
      ((loadBusStops files.busStops (appDataInit : AppData D)).2 && (loadBusRoutes files.busRoutes d1).2 &&
        (loadRouteStops files.routeStops d2).2 && (loadSubwayStations files.subwayStations d3).2 &&
        (loadSubwayDistances files.subwayDistances d4).2 && (loadFacilities files.facilities d5).2 &&
        (loadArrivals files.arrivalTest d6).2 &&
        (loadCrowdings files.crowdingTest (loadArrivals files.arrivalTest d6).1).2 &&
        (dataLoaderBuildGraph (loadRecords files : AppData D)).2) := by
    subst hd1 hd2 hd3 hd4
    rfl
  -- what the loaders of references look up is there already
  have hsame : SameRoutes (networkBase files) d2 := by
    rw [e2, e1]
    exact ⟨rfl, rfl⟩
  have hrouteStops : routeStopsAccepted files d2 = routeStopsAccepted files (networkBase files : AppData D) := by
    rw [routeStopsAccepted, routeStopsAccepted, hsame.routeStopOf]
  have hstations : d4.stations = (networkBase files : AppData D).stations := by
    rw [e4, e3, e2, e1]
    rfl
  have hdistances : subwayDistancesAccepted files d4 = subwayDistancesAccepted files (networkBase files) := by
    unfold subwayDistancesAccepted subwayDistanceOf findStationById
    rw [hstations]
  obtain ⟨stop, hstop⟩ := List.exists_mem_of_ne_nil _
    (Framework.foldl_addNew_ne_nil (fun stop : StopNode D => stop.stopId.val) h.stops [])
  have hrecord : stop.stopId.val ∈ recordIds (loadRecords files : AppData D) := by
    rw [loadRecords_eq]
    exact List.mem_append_left _ (List.mem_map_of_mem hstop)
  rw [hall]
  simp only [Bool.and_eq_true]
  refine ⟨⟨⟨⟨⟨⟨⟨⟨?_, ?_⟩, ?_⟩, ?_⟩, ?_⟩, ?_⟩, ?_⟩, ?_⟩, ?_⟩
  · exact loadBusStops_ok rfl h.stops
  · exact loadBusRoutes_ok (by rw [e1]; rfl) h.routes
  · refine loadRouteStops_ok ?_ ?_ (hrouteStops ▸ h.routeStops)
    · rw [e2, e1]
      exact hd
    · rw [e2, e1]
      exact networkBase_bare (D := D) files
  · exact loadSubwayStations_ok (by rw [e3, e2, e1]; rfl) h.stations
  · exact loadSubwayDistances_ok (by rw [e4, e3, e2, e1]; rfl) (hdistances ▸ h.distances)
  · exact loaderResult_any h.facilities
  · exact loaderResult_any h.arrivals
  · exact loaderResult_any h.crowdings
  · exact dataLoaderBuildGraph_ok hgraph hrecord

theorem subwayDistanceRow_ne_nil [CDouble D] {header : CsvRow} {data data' : AppData D} {r : CsvRow}
    (h : subwayDistanceRow header data r = some data') : data'.subwayDistances ≠ [] := by
  unfold subwayDistanceRow at h
  dsimp only at h
  split at h
  · cases h
  · split at h
    · cases h
      exact List.cons_ne_nil _ _
    · cases h

/-- Where the loader returns 1 there are distances. -/
theorem subwayDistances_of_load [CDouble D] {files : CsvFiles}
    (h : (dataLoaderLoad files : AppData D × Bool).2 = true) :
    (loadedData files : AppData D).subwayDistances ≠ [] := by
  have hkept : ∀ data : AppData D, (loadCrowdings files.crowdingTest (loadArrivals files.arrivalTest
      (loadFacilities files.facilities data).1).1).1.subwayDistances = data.subwayDistances := fun data => by
    rw [loadCrowdings_eq, loadArrivals_eq, loadFacilities_eq]
  obtain ⟨data, hloaded, hdata⟩ : ∃ data : AppData D, (loadSubwayDistances files.subwayDistances data).2 = true ∧
      (loadSubwayDistances files.subwayDistances data).1.subwayDistances =
        (loadedData files : AppData D).subwayDistances := by
    unfold dataLoaderLoad at h
    simp only [Bool.and_eq_true] at h
    exact ⟨_, h.1.1.1.1.2, (hkept _).symm⟩
  rw [← hdata]
  exact loaderResult_of_pos (P := fun data => data.subwayDistances ≠ []) subwayDistanceRow_ne_nil hloaded

end Transit
