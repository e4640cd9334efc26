import Transit.Proof.LoadedStore
import Transit.Proof.Utf8Cells

/-!
# The store that is loaded from files of UTF-8

`AppData.texts` are all texts of the store. Eight sheets are loaded one after
the other; a row that is kept stores some of its columns, and from the records
the texts of the graph are copied whole.

* `utf8_dataLoaderLoad_iff`: all texts of the store are `Utf8` exactly when the
  columns stored are `FieldClean`.
-/

namespace Transit

open Framework

variable {D : Type} {data : AppData D}

/-! ## The texts of the store -/

def StopNode.texts (stop : StopNode D) : List Str := [stop.stopId, stop.stopName, stop.district]

def RouteStopNode.texts (stop : RouteStopNode) : List Str := [stop.routeNo, stop.stopId, stop.direction]

def RouteNode.texts (route : RouteNode) : List Str :=
  [route.routeNo.val, route.routeName, route.startStopId, route.endStopId] ++ route.stops.flatMap RouteStopNode.texts

def StationNode.texts (station : StationNode D) : List Str :=
  [station.stationId, station.stationName, station.lineNo, station.address, station.transferLines]

def SubwayDistanceNode.texts (distance : SubwayDistanceNode D) : List Str :=
  [distance.fromStationId, distance.toStationId, distance.lineNo]

def FacilityNode.texts (facility : FacilityNode D) : List Str :=
  [facility.facilityId, facility.name, facility.category, facility.nearestNodeId, facility.address]

def ArrivalNode.texts (arrival : ArrivalNode) : List Str :=
  [arrival.routeNo, arrival.nodeId, arrival.timeSlot, arrival.status]

def CrowdingNode.texts (crowding : CrowdingNode) : List Str :=
  [crowding.routeNo, crowding.nodeId, crowding.timeSlot, crowding.crowdingLevel]

def GraphNode.texts (node : GraphNode D) : List Str :=
  [node.nodeId.val, node.nodeName, node.nodeType] ++ node.edges.map (·.routeNo.val)

/-- The texts of all records. -/
def AppData.recordTexts (data : AppData D) : List Str :=
  data.stops.flatMap StopNode.texts ++ data.routes.flatMap RouteNode.texts ++
    data.stations.flatMap StationNode.texts ++ data.subwayDistances.flatMap SubwayDistanceNode.texts ++
    data.facilities.flatMap FacilityNode.texts ++ data.arrivals.flatMap ArrivalNode.texts ++
    data.crowdings.flatMap CrowdingNode.texts

/-- Every string in the store. -/
def AppData.texts (data : AppData D) : List Str :=
  data.recordTexts ++ data.graph.nodes.flatMap GraphNode.texts

def Utf8Texts (texts : List Str) : Prop := ∀ s ∈ texts, Utf8 s

@[simp] theorem utf8Texts_nil : Utf8Texts [] := List.forall_mem_nil _

@[simp] theorem utf8Texts_cons {s : Str} {texts : List Str} :
    Utf8Texts (s :: texts) ↔ Utf8 s ∧ Utf8Texts texts := List.forall_mem_cons

@[simp] theorem utf8Texts_append {a b : List Str} : Utf8Texts (a ++ b) ↔ Utf8Texts a ∧ Utf8Texts b :=
  List.forall_mem_append

theorem utf8Texts_flatMap {α : Type} {f : α → List Str} {xs : List α} :
    Utf8Texts (xs.flatMap f) ↔ ∀ x ∈ xs, Utf8Texts (f x) := by
  unfold Utf8Texts
  exact List.forall_mem_flatMap

/-! ## Sheets -/

/-- A file that is loaded: its contents, the columns it must have, what is done
with a row, and the columns stored of one with the sizes of their arrays. -/
structure Sheet (D : Type) where
  file : Option (List Byte)
  required : List Str
  row : CsvRow → AppData D → CsvRow → Option (AppData D)
  columns : List (Nat × Str)

/-- The store after the rows of a sheet. -/
def Sheet.load (data : AppData D) (sheet : Sheet D) : AppData D :=
  ((loadCsv sheet.file sheet.required sheet.row data).map Prod.fst).getD data

/-- The lines of which a loader keeps the rows. -/
def keptLines (row : AppData D → CsvRow → Option (AppData D)) : List Str → AppData D → List Str
  | [], _ => []
  | line :: rest, data =>
    match row data (csvParseLine line) with
    | none => keptLines row rest data
    | some data => line :: keptLines row rest data

/-- The columns stored of the rows kept are clean. -/
def Sheet.Clean (data : AppData D) (sheet : Sheet D) : Prop :=
  ∀ text ∈ sheet.file, HeaderOk sheet.required text →
    ∀ line ∈ keptLines (sheet.row (headerRead text)) (linesRead text) data, ∀ c ∈ sheet.columns,
      FieldClean c.1 (cellOf (headerRead text) line c.2)

/-- So they are in sheets that are loaded one after the other. -/
def SheetsClean : AppData D → List (Sheet D) → Prop
  | _, [] => True
  | data, sheet :: rest => sheet.Clean data ∧ SheetsClean (sheet.load data) rest

/-- What a row that is kept adds to the texts of the records is its columns. -/
def Sheet.Stores (sheet : Sheet D) : Prop :=
  ∀ header data row data', sheet.row header data row = some data' →
    (Utf8Texts data'.recordTexts ↔ Utf8Texts data.recordTexts ∧
      ∀ c ∈ sheet.columns, Utf8 (snprintf c.1 (column header row c.2)))

theorem utf8_loadRows_iff {sheet : Sheet D} (h : sheet.Stores) (header : CsvRow) (lines : List Str)
    (data : AppData D) :
    Utf8Texts (loadRows (sheet.row header) lines data).1.recordTexts ↔ Utf8Texts data.recordTexts ∧
      ∀ line ∈ keptLines (sheet.row header) lines data, ∀ c ∈ sheet.columns,
        Utf8 (snprintf c.1 (column header (csvParseLine line) c.2)) := by
  induction lines generalizing data with
  | nil => exact (and_iff_left (List.forall_mem_nil _)).symm
  | cons line lines ih =>
    rw [loadRows, keptLines]
    cases hrow : sheet.row header data (csvParseLine line) with
    | none => exact ih data
    | some data' =>
      dsimp only
      rw [ih data', h header data _ data' hrow, List.forall_mem_cons, and_assoc]

/-- The lines read from a file. -/
theorem fragment_of_mem_fgetsAll {text : List Byte} (h : Utf8 text) {line : Str} (hl : line ∈ fgetsAll 1024 text) :
    cstr line = line ∧ Fragment line := by
  obtain ⟨chunk, hchunk, rfl⟩ := List.mem_map.mp hl
  have hinfix : chunk <:+: text := by
    have hmem := List.infix_of_mem_flatten hchunk
    rwa [readLines_flatten (by decide)] at hmem
  refine ⟨?_, h.fragment.of_infix ((List.takeWhile_prefix _).isInfix.trans hinfix)⟩
  unfold cstr
  rw [List.takeWhile_takeWhile]
  simp only [decide_eq_true_eq, and_self]

theorem keptLines_subset (row : AppData D → CsvRow → Option (AppData D)) (lines : List Str) (data : AppData D) :
    keptLines row lines data ⊆ lines := by
  induction lines generalizing data with
  | nil => exact List.Subset.refl _
  | cons line lines ih =>
    rw [keptLines]
    cases row data (csvParseLine line) with
    | none => exact List.subset_cons_of_subset _ (ih data)
    | some data' => exact List.cons_subset_cons _ (ih data')

theorem Sheet.load_some {sheet : Sheet D} {text : List Byte} (hfile : sheet.file = some text)
    (hok : HeaderOk sheet.required text) :
    sheet.load data = (loadRows (sheet.row (headerRead text)) (linesRead text) data).1 := by
  unfold HeaderOk headerRead at hok
  unfold Sheet.load loadCsv headerRead linesRead
  rw [hfile]
  dsimp only
  cases hread : fgetsAll 1024 text with
  | nil => rfl
  | cons first lines =>
    rw [hread, List.headD_cons] at hok
    dsimp only
    rw [if_pos hok]
    rfl

theorem Sheet.load_rejected {sheet : Sheet D} (h : ∀ text, sheet.file = some text → ¬ HeaderOk sheet.required text) :
    sheet.load data = data := by
  unfold HeaderOk headerRead at h
  unfold Sheet.load loadCsv
  cases hfile : sheet.file with
  | none => rfl
  | some text =>
    cases hread : fgetsAll 1024 text with
    | nil =>
      dsimp only
      rw [hread]
      rfl
    | cons first lines =>
      have hno := h text hfile
      rw [hread, List.headD_cons] at hno
      dsimp only
      rw [hread]
      dsimp only
      rw [if_neg hno]
      rfl

/-- The store after a sheet of UTF-8. -/
theorem utf8_load_iff {sheet : Sheet D} (h : sheet.Stores) (hsize : ∀ c ∈ sheet.columns, 2 ≤ c.1)
    (hfile : ∀ text ∈ sheet.file, Utf8 text) :
    Utf8Texts (sheet.load data).recordTexts ↔ Utf8Texts data.recordTexts ∧ sheet.Clean data := by
  by_cases hok : ∃ text, sheet.file = some text ∧ HeaderOk sheet.required text
  · obtain ⟨text, htext, hok⟩ := hok
    rw [Sheet.load_some htext hok, utf8_loadRows_iff h]
    refine and_congr_right fun _ => ?_
    have hline : ∀ line ∈ keptLines (sheet.row (headerRead text)) (linesRead text) data, ∀ c ∈ sheet.columns,
        (Utf8 (snprintf c.1 (column (headerRead text) (csvParseLine line) c.2)) ↔
          FieldClean c.1 (cellOf (headerRead text) line c.2)) := by
      intro line hl c hc
      have hread : line ∈ fgetsAll 1024 text := List.mem_of_mem_tail (keptLines_subset _ _ _ hl)
      obtain ⟨hcstr, hfragment⟩ := fragment_of_mem_fgetsAll (hfile text htext) hread
      have hcolumn := column_csvParseLine (headerRead text) line c.2
      rw [hcstr] at hcolumn
      rw [hcolumn]
      exact utf8_field_iff (hsize c hc) (fragment_cellOf hfragment _ _)
    constructor
    · intro hutf text' htext' _ line hl c hc
      obtain rfl : text' = text := Option.some.inj ((Option.mem_def.mp htext').symm.trans htext)
      exact (hline line hl c hc).mp (hutf line hl c hc)
    · exact fun hclean line hl c hc => (hline line hl c hc).mpr (hclean text htext hok line hl c hc)
  · rw [Sheet.load_rejected fun text htext hh => hok ⟨text, htext, hh⟩]
    exact (and_iff_left fun text htext hh => absurd ⟨text, htext, hh⟩ hok).symm

theorem utf8_loads_iff {rest : List (Sheet D)} (h : ∀ sheet ∈ rest, sheet.Stores)
    (hsize : ∀ sheet ∈ rest, ∀ c ∈ sheet.columns, 2 ≤ c.1)
    (hfiles : ∀ sheet ∈ rest, ∀ text ∈ sheet.file, Utf8 text) (data : AppData D) :
    Utf8Texts (rest.foldl Sheet.load data).recordTexts ↔ Utf8Texts data.recordTexts ∧ SheetsClean data rest := by
  induction rest generalizing data with
  | nil => exact (and_iff_left trivial).symm
  | cons sheet rest ih =>
    rw [List.forall_mem_cons] at h hsize hfiles
    rw [List.foldl_cons, ih h.2 hsize.2 hfiles.2, utf8_load_iff h.1 hsize.1 hfiles.1, SheetsClean, and_assoc]

/-! ## The rows -/

def busStopColumns : List (Nat × Str) :=
  [(maxIdLen, utf8 "stop_id"), (maxNameLen, utf8 "stop_name"), (maxCategoryLen, utf8 "district")]

def busRouteColumns : List (Nat × Str) :=
  [(maxRouteLen, utf8 "route_no"), (maxNameLen, utf8 "route_name"), (maxIdLen, utf8 "start_stop_id"),
    (maxIdLen, utf8 "end_stop_id")]

def routeStopColumns : List (Nat × Str) :=
  [(maxRouteLen, utf8 "route_no"), (maxIdLen, utf8 "stop_id"), (maxCategoryLen, utf8 "direction")]

def subwayStationColumns : List (Nat × Str) :=
  [(maxIdLen, utf8 "station_id"), (maxNameLen, utf8 "station_name"), (maxRouteLen, utf8 "line_no"),
    (maxAddressLen, utf8 "address"), (maxNameLen, utf8 "transfer_lines")]

def subwayDistanceColumns : List (Nat × Str) :=
  [(maxIdLen, utf8 "from_station_id"), (maxIdLen, utf8 "to_station_id"), (maxRouteLen, utf8 "line_no")]

def facilityColumns : List (Nat × Str) :=
  [(maxIdLen, utf8 "facility_id"), (maxNameLen, utf8 "name"), (maxCategoryLen, utf8 "category"),
    (maxIdLen, utf8 "nearest_node_id"), (maxAddressLen, utf8 "address")]

def arrivalColumns : List (Nat × Str) :=
  [(maxRouteLen, utf8 "route_no"), (maxIdLen, utf8 "node_id"), (maxTimeSlotLen, utf8 "time_slot"),
    (maxStatusLen, utf8 "status")]

def crowdingColumns : List (Nat × Str) :=
  [(maxRouteLen, utf8 "route_no"), (maxIdLen, utf8 "node_id"), (maxTimeSlotLen, utf8 "time_slot"),
    (maxStatusLen, utf8 "crowding_level")]

theorem loaderResult_fst (data : AppData D) (enough : Nat → Bool) (r : Option (AppData D × Nat)) :
    (loaderResult data enough r).1 = (r.map Prod.fst).getD data := by
  cases r <;> rfl

section

variable [CDouble D]

/-- The files, in the order in which they are loaded. -/
def sheets (files : CsvFiles) : List (Sheet D) :=
  [⟨files.busStops, [utf8 "stop_id", utf8 "stop_name"], busStopRow, busStopColumns⟩,
    ⟨files.busRoutes, [utf8 "route_no", utf8 "start_stop_id", utf8 "end_stop_id"], busRouteRow, busRouteColumns⟩,
    ⟨files.routeStops, [utf8 "route_no", utf8 "seq", utf8 "stop_id"], routeStopRow, routeStopColumns⟩,
    ⟨files.subwayStations, [utf8 "station_id", utf8 "station_name", utf8 "line_no"], subwayStationRow,
      subwayStationColumns⟩,
    ⟨files.subwayDistances, [utf8 "from_station_id", utf8 "to_station_id", utf8 "distance_km"], subwayDistanceRow,
      subwayDistanceColumns⟩,
    ⟨files.facilities, [utf8 "facility_id", utf8 "name", utf8 "category", utf8 "nearest_node_id"], facilityRow,
      facilityColumns⟩,
    ⟨files.arrivalTest, [utf8 "route_no", utf8 "node_id", utf8 "time_slot", utf8 "arrival_minutes", utf8 "status"],
      arrivalRow, arrivalColumns⟩,
    ⟨files.crowdingTest, [utf8 "route_no", utf8 "node_id", utf8 "time_slot", utf8 "crowding_level"], crowdingRow,
      crowdingColumns⟩]

theorem loadRecords_sheets (files : CsvFiles) :
    (loadRecords files : AppData D) = (sheets files).foldl Sheet.load appDataInit := by
  simp only [loadRecords, loadBusStops, loadBusRoutes, loadRouteStops, loadSubwayStations, loadSubwayDistances,
    loadFacilities, loadArrivals, loadCrowdings, loaderResult_fst]
  rfl

end

@[simp] theorem CStr.copy_val (n : Nat) (s : Str) : (CStr.copy n s).val = snprintf n s := rfl

theorem utf8Texts_stopAdd (stop : StopNode D) : Utf8Texts (stopAdd data stop).recordTexts ↔
    Utf8Texts data.recordTexts ∧ Utf8Texts stop.texts := by
  simp only [AppData.recordTexts, stopAdd, List.flatMap_cons, utf8Texts_append]
  tauto

theorem utf8Texts_routeAdd (route : RouteNode) : Utf8Texts (routeAdd data route).recordTexts ↔
    Utf8Texts data.recordTexts ∧ Utf8Texts route.bare.texts := by
  simp only [AppData.recordTexts, routeAdd, RouteNode.bare, List.flatMap_cons, utf8Texts_append]
  tauto

theorem utf8Texts_stationAdd (station : StationNode D) : Utf8Texts (stationAdd data station).recordTexts ↔
    Utf8Texts data.recordTexts ∧ Utf8Texts station.texts := by
  simp only [AppData.recordTexts, stationAdd, List.flatMap_cons, utf8Texts_append]
  tauto

theorem utf8Texts_subwayDistanceAdd (distance : SubwayDistanceNode D) :
    Utf8Texts (subwayDistanceAdd data distance).recordTexts ↔
      Utf8Texts data.recordTexts ∧ Utf8Texts distance.texts := by
  simp only [AppData.recordTexts, subwayDistanceAdd, List.flatMap_cons, utf8Texts_append]
  tauto

theorem utf8Texts_facilityAdd (facility : FacilityNode D) : Utf8Texts (facilityAdd data facility).recordTexts ↔
    Utf8Texts data.recordTexts ∧ Utf8Texts facility.texts := by
  simp only [AppData.recordTexts, facilityAdd, List.flatMap_cons, utf8Texts_append]
  tauto

theorem utf8Texts_arrivalAdd (arrival : ArrivalNode) : Utf8Texts (arrivalAdd data arrival).recordTexts ↔
    Utf8Texts data.recordTexts ∧ Utf8Texts arrival.texts := by
  simp only [AppData.recordTexts, arrivalAdd, List.flatMap_cons, utf8Texts_append]
  tauto

theorem utf8Texts_crowdingAdd (crowding : CrowdingNode) : Utf8Texts (crowdingAdd data crowding).recordTexts ↔
    Utf8Texts data.recordTexts ∧ Utf8Texts crowding.texts := by
  simp only [AppData.recordTexts, crowdingAdd, List.flatMap_cons, utf8Texts_append]
  tauto

/-- The name a stop is given in place of one that is blank or a single digit. -/
theorem utf8_stopName_iff {stopId : CStr maxIdLen} (hid : Utf8 stopId.val) (name : CStr maxNameLen) :
    Utf8 (if isPlaceholderStopName name then
      CStr.copy maxNameLen (utf8 "정류장명 미상(" ++ stopId.val ++ utf8 ")") else name).val ↔ Utf8 name.val := by
  by_cases hplace : isPlaceholderStopName name = true
  · rw [if_pos hplace]
    refine iff_of_true ?_ ?_
    · have hlen : (utf8 "정류장명 미상(").length = 20 ∧ (utf8 ")").length = 1 := by decide
      have hshort : stopId.val.length ≤ 31 := stopId.2
      have hfits : (utf8 "정류장명 미상(" ++ stopId.val ++ utf8 ")").length ≤ 99 := by
        simp only [List.length_append]
        omega
      rw [CStr.copy_of_le hfits]
      exact ((utf8_literal _).append hid).append (utf8_literal _)
    · simp only [isPlaceholderStopName, Bool.or_eq_true, beq_iff_eq] at hplace
      rcases hplace with (hblank | hzero) | hone
      · exact utf8_of_isspace (List.all_eq_true.mp hblank)
      · exact hzero ▸ utf8_literal _
      · exact hone ▸ utf8_literal _
  · rw [if_neg hplace]

theorem utf8Texts_insertRouteStop (rs : RouteStopNode) (stops : List RouteStopNode) :
    Utf8Texts ((insertRouteStop rs stops).flatMap RouteStopNode.texts) ↔
      Utf8Texts (stops.flatMap RouteStopNode.texts) ∧ Utf8Texts rs.texts := by
  simp only [utf8Texts_flatMap, mem_insertRouteStop, forall_eq_or_imp]
  exact and_comm

theorem utf8Texts_addToRoute {routeNo : Str} (rs : RouteStopNode) {routes : List RouteNode}
    (h : (routes.find? (·.routeNo.val == routeNo)).isSome) :
    Utf8Texts ((addToRoute routeNo rs routes).flatMap RouteNode.texts) ↔
      Utf8Texts (routes.flatMap RouteNode.texts) ∧ Utf8Texts rs.texts := by
  induction routes with
  | nil => cases h
  | cons route rest ih =>
    rw [addToRoute]
    by_cases hno : (route.routeNo.val == routeNo) = true
    · rw [if_pos hno]
      simp only [List.flatMap_cons, RouteNode.texts, routeStopAdd, utf8Texts_append, utf8Texts_insertRouteStop]
      tauto
    · rw [if_neg hno, List.flatMap_cons, List.flatMap_cons, utf8Texts_append, utf8Texts_append,
        ih (by rw [List.find?_cons, Bool.eq_false_iff.mpr hno] at h; exact h), and_assoc]

section

variable (file : Option (List Byte)) (required : List Str)

theorem stores_busRoute : Sheet.Stores (⟨file, required, busRouteRow, busRouteColumns⟩ : Sheet D) := by
  intro header data row data' hrow
  simp only [busRouteRow] at hrow
  split at hrow
  · cases hrow
  · split at hrow
    · cases hrow
      rw [utf8Texts_routeAdd]
      simp [RouteNode.texts, RouteNode.bare, busRouteColumns]
    · cases hrow

theorem stores_routeStop : Sheet.Stores (⟨file, required, routeStopRow, routeStopColumns⟩ : Sheet D) := by
  intro header data row data' hrow
  simp only [routeStopRow] at hrow
  split at hrow
  · cases hrow
  · split at hrow
    · cases hrow
    · rename_i hfound
      cases hrow
      have hroute : (data.routes.find? (·.routeNo.val == column header row (utf8 "route_no"))).isSome := by
        rw [Bool.or_eq_true, not_or] at hfound
        exact Option.isSome_iff_ne_none.mpr fun hnone => hfound.1 (Option.isNone_iff_eq_none.mpr hnone)
      simp only [AppData.recordTexts, utf8Texts_append, utf8Texts_addToRoute _ hroute]
      simp [RouteStopNode.texts, routeStopColumns]
      tauto

theorem stores_arrival : Sheet.Stores (⟨file, required, arrivalRow, arrivalColumns⟩ : Sheet D) := by
  intro header data row data' hrow
  cases hrow
  rw [utf8Texts_arrivalAdd]
  simp [ArrivalNode.texts, arrivalColumns]

theorem stores_crowding : Sheet.Stores (⟨file, required, crowdingRow, crowdingColumns⟩ : Sheet D) := by
  intro header data row data' hrow
  cases hrow
  rw [utf8Texts_crowdingAdd]
  simp [CrowdingNode.texts, crowdingColumns]

variable [CDouble D]

theorem stores_busStop : Sheet.Stores (⟨file, required, busStopRow, busStopColumns⟩ : Sheet D) := by
  intro header data row data' hrow
  simp only [busStopRow] at hrow
  split at hrow
  · cases hrow
  · split at hrow
    · cases hrow
      rw [utf8Texts_stopAdd]
      refine and_congr_right fun _ => ?_
      simp only [StopNode.texts, busStopColumns, utf8Texts_cons, utf8Texts_nil, List.forall_mem_cons,
        List.not_mem_nil, IsEmpty.forall_iff, implies_true, and_true]
      exact and_congr_right fun hid => and_congr_left fun _ => utf8_stopName_iff hid _
    · cases hrow

theorem stores_subwayStation : Sheet.Stores (⟨file, required, subwayStationRow, subwayStationColumns⟩ : Sheet D) := by
  intro header data row data' hrow
  simp only [subwayStationRow] at hrow
  split at hrow
  · cases hrow
  · split at hrow
    · cases hrow
      rw [utf8Texts_stationAdd]
      simp [StationNode.texts, subwayStationColumns]
    · cases hrow

theorem stores_subwayDistance :
    Sheet.Stores (⟨file, required, subwayDistanceRow, subwayDistanceColumns⟩ : Sheet D) := by
  intro header data row data' hrow
  simp only [subwayDistanceRow] at hrow
  split at hrow
  · cases hrow
  · split at hrow
    · rename_i fromStation _ hfrom _
      cases hrow
      rw [utf8Texts_subwayDistanceAdd]
      refine and_congr_right fun hold => ?_
      have hstation : Utf8 fromStation.lineNo.val := by
        simp only [AppData.recordTexts, utf8Texts_append, utf8Texts_flatMap] at hold
        have htexts := hold.1.1.1.1.2 fromStation (List.mem_of_find?_eq_some hfrom)
        exact htexts _ (by simp [StationNode.texts])
      have hline : Utf8 (if strIsBlank (column header row (utf8 "line_no")) then fromStation.lineNo
          else CStr.copy maxRouteLen (column header row (utf8 "line_no"))).val ↔
          Utf8 (snprintf maxRouteLen (column header row (utf8 "line_no"))) := by
        by_cases hblank : strIsBlank (column header row (utf8 "line_no")) = true
        · rw [if_pos hblank]
          refine iff_of_true hstation (utf8_of_isspace fun b hb => ?_)
          exact List.all_eq_true.mp hblank b (List.mem_of_mem_take hb)
        · rw [if_neg hblank, CStr.copy_val]
      simp only [SubwayDistanceNode.texts, subwayDistanceColumns, utf8Texts_cons, utf8Texts_nil,
        List.forall_mem_cons, List.not_mem_nil, IsEmpty.forall_iff, implies_true, and_true, CStr.copy_val, hline]
    · cases hrow

theorem stores_facility : Sheet.Stores (⟨file, required, facilityRow, facilityColumns⟩ : Sheet D) := by
  intro header data row data' hrow
  simp only [facilityRow] at hrow
  split at hrow
  · cases hrow
  · cases hrow
    rw [utf8Texts_facilityAdd]
    simp [FacilityNode.texts, facilityColumns]

end

/-! ## The graph -/

/-- A label of an edge is copied whole. -/
def EdgeLabel (s : Str) : Prop := Utf8 s ∧ s.length ≤ maxRouteLen - 1

theorem edgeLabel_csvTokens {fuel : Nat} {cursor : Str} (h : EdgeLabel cursor) :
    ∀ token ∈ csvTokens fuel cursor, EdgeLabel token := by
  induction fuel generalizing cursor with
  | zero => exact List.forall_mem_nil _
  | succ fuel ih =>
    obtain ⟨hutf, hlen⟩ := h
    rw [← List.takeWhile_append_dropWhile (p := (· == 32)) (l := cursor)] at hutf hlen
    have hspaces : Utf8 (cursor.takeWhile (· == 32)) := utf8_of_ascii fun b hb => by
      have hspace : b = 32 := by simpa using List.mem_takeWhile_imp hb
      rw [hspace]
      decide
    rw [hspaces.append_iff] at hutf
    rw [List.length_append] at hlen
    unfold csvTokens nextCsvToken
    dsimp only
    generalize cursor.dropWhile (· == 32) = start at hutf hlen
    rw [← List.takeWhile_append_dropWhile (p := (· != 44)) (l := start)] at hutf hlen
    have hbehind : AtChar (start.dropWhile (· != 44)) ∧
        (Utf8 (start.dropWhile (· != 44)) → Utf8 (start.dropWhile (· != 44)).tail) := by
      cases hdrop : start.dropWhile (· != 44) with
      | nil => exact ⟨atChar_nil, id⟩
      | cons b rest =>
        have hcomma := List.head_dropWhile_not (p := (· != 44)) (l := start) (by rw [hdrop]; exact List.cons_ne_nil _ _)
        have hb : b = 44 := by simpa [hdrop] using hcomma
        rw [hb]
        exact ⟨atChar_ascii (by decide), fun hr => (utf8_ascii_cons (by decide)).mp hr⟩
    rw [utf8_append_iff hbehind.1] at hutf
    rw [List.length_append] at hlen
    have htoken : EdgeLabel (strTrim ((start.takeWhile (· != 44)).take (maxRouteLen - 1))) := by
      rw [List.take_of_length_le (by omega)]
      obtain ⟨lead, trail, hsplit, -, -⟩ := strTrim_split (start.takeWhile (· != 44))
      have hshort := congrArg List.length hsplit
      simp only [List.length_append] at hshort
      exact ⟨utf8_strTrim_iff.mpr hutf.1, by omega⟩
    have hrest : EdgeLabel (start.dropWhile (· != 44)).tail :=
      ⟨hbehind.2 hutf.2, by rw [List.length_tail]; omega⟩
    generalize (start.dropWhile (· != 44)).tail = rest at hrest
    generalize strTrim ((start.takeWhile (· != 44)).take (maxRouteLen - 1)) = token at htoken
    by_cases hnil : start = []
    · rw [if_pos hnil]
      exact List.forall_mem_nil _
    rw [if_neg hnil]
    by_cases hblank : strIsBlank token = true
    · rw [if_pos hblank]
      exact List.forall_mem_nil _
    rw [if_neg hblank]
    exact List.forall_mem_cons.mpr ⟨htoken, ih hrest⟩

theorem edgeLabel_commonLineName {a b line : Str} (h : EdgeLabel a) (hl : commonLineName a b maxRouteLen = some line) :
    EdgeLabel line := by
  obtain ⟨token, hfind, rfl⟩ := Option.map_eq_some_iff.mp hl
  have htoken := edgeLabel_csvTokens h token (List.mem_of_find?_eq_some hfind)
  unfold safeStrcpy
  rw [snprintf_of_le htoken.2]
  exact htoken

theorem utf8_graph [CDouble D] (hgraph : data.graph = graphInit) (h : Utf8Texts data.recordTexts) :
    Utf8Texts ((dataLoaderBuildGraph data).1.graph.nodes.flatMap GraphNode.texts) := by
  simp only [AppData.recordTexts, utf8Texts_append, utf8Texts_flatMap] at h
  obtain ⟨⟨⟨⟨⟨⟨hstops, hroutes⟩, hstations⟩, hdistances⟩, -⟩, -⟩, -⟩ := h
  have hnodes : NodeTexts Utf8 data := by
    refine ⟨fun s hs => ?_, fun s hs => ?_, utf8_literal _, utf8_literal _⟩
    · exact ⟨hstops s hs _ (by simp [StopNode.texts]), hstops s hs _ (by simp [StopNode.texts])⟩
    · exact ⟨hstations s hs _ (by simp [StationNode.texts]), hstations s hs _ (by simp [StationNode.texts])⟩
  have hrules : RuleTexts EdgeLabel data := by
    refine ⟨fun r hr => ?_, fun d hd => ?_, fun s hs other line hl => ?_, ?_⟩
    · exact ⟨hroutes r hr _ (by simp [RouteNode.texts]), r.routeNo.2⟩
    · exact ⟨hdistances d hd _ (by simp [SubwayDistanceNode.texts]), d.lineNo.2⟩
    · exact edgeLabel_commonLineName ⟨hstations s hs _ (by simp [StationNode.texts]), s.lineNo.2⟩ hl
    · exact ⟨⟨utf8_literal _, by decide⟩, utf8_literal _, by decide⟩
  have hall := graphTexts_dataLoaderBuildGraph hgraph hnodes fun c hc => by
    obtain ⟨hutf, hlen⟩ := hrules.contributions c hc
    rwa [CStr.copy_of_le hlen]
  rw [utf8Texts_flatMap]
  intro node hnode
  obtain ⟨i, hi, rfl⟩ := List.mem_iff_getElem.mp hnode
  obtain ⟨h1, h2, h3⟩ := hall.nodes _ hnode
  have hedges := hall.edges i
  unfold TransferGraph.edgesAt at hedges
  rw [List.getElem?_eq_getElem hi] at hedges
  unfold GraphNode.texts
  simp only [utf8Texts_append, utf8Texts_cons, utf8Texts_nil, and_true]
  exact ⟨⟨h1, h2, h3⟩, List.forall_mem_map.mpr hedges⟩

/-! ## The store -/

/-- The files are UTF-8. -/
def Utf8Files (files : CsvFiles) : Prop :=
  ∀ file ∈ [files.busStops, files.busRoutes, files.routeStops, files.subwayStations, files.subwayDistances,
    files.facilities, files.arrivalTest, files.crowdingTest], ∀ text ∈ file, Utf8 text

theorem utf8_dataLoaderLoad_iff [CDouble D] {files : CsvFiles} (h : Utf8Files files) :
    Utf8Texts (dataLoaderLoad files : AppData D × Bool).1.texts ↔
      SheetsClean (appDataInit : AppData D) (sheets files) := by
  have hstores : ∀ sheet ∈ (sheets files : List (Sheet D)), sheet.Stores := by
    simp only [sheets, List.forall_mem_cons]
    exact ⟨stores_busStop _ _, stores_busRoute _ _, stores_routeStop _ _, stores_subwayStation _ _,
      stores_subwayDistance _ _, stores_facility _ _, stores_arrival _ _, stores_crowding _ _, List.forall_mem_nil _⟩
  have hsize : ∀ sheet ∈ (sheets files : List (Sheet D)), ∀ c ∈ sheet.columns, 2 ≤ c.1 := by
    simp only [sheets, List.forall_mem_cons]
    exact ⟨by decide, by decide, by decide, by decide, by decide, by decide, by decide, by decide,
      List.forall_mem_nil _⟩
  have hfiles : ∀ sheet ∈ (sheets files : List (Sheet D)), ∀ text ∈ sheet.file, Utf8 text := by
    unfold Utf8Files at h
    simp only [List.forall_mem_cons] at h
    simp only [sheets, List.forall_mem_cons]
    exact ⟨h.1, h.2.1, h.2.2.1, h.2.2.2.1, h.2.2.2.2.1, h.2.2.2.2.2.1, h.2.2.2.2.2.2.1, h.2.2.2.2.2.2.2.1,
      List.forall_mem_nil _⟩
  have hload := utf8_loads_iff hstores hsize hfiles (appDataInit : AppData D)
  have hinit : Utf8Texts (appDataInit : AppData D).recordTexts := by
    simp [AppData.recordTexts, appDataInit]
  rw [← loadRecords_sheets, and_iff_right hinit] at hload
  rw [← hload, dataLoaderLoad_eq]
  unfold AppData.texts
  rw [utf8Texts_append]
  exact and_iff_left_of_imp fun hrecords => utf8_graph (loading_loadRecords files).graph hrecords

end Transit
