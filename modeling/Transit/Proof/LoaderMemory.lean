import Transit.Proof.LoadedRecords
import Transit.Proof.StoreLife

/-!
# Loading into memory (`server/data_loader.c`)

`dataLoaderLoad` works on lists. `dataLoaderLoadMem` are the same functions over
the blocks and pointers of the store: what a loader looks up, it looks up along
the pointers, and what it adds, it allocates. The list that a loop walks along is
read when the loop begins, as its rounds change other blocks only.

A run ends (`Runs`) with a store that is laid out, whichever allocations fail;
where none does, its records are those that the function on lists gives.

* `dataLoader_memory`: `data_loader_load`, and `app_data_free` behind it.
-/

namespace Transit

open Framework

variable {D : Type}

/-- The values of a list. -/
def readRecords {α : Type} (list : RootList D α) (s : AppDataMem D) : Option (List α) :=
  list.kind.readNodes s.mem.size s.mem (list.root s)

/-! ## Files -/

/-- The loop over the rows below the header; a row says whether it counts as loaded. -/
def loadRowsMem (row : AppDataMem D → CsvRow → Option (AppDataMem D × Bool)) :
    List Str → AppDataMem D → Option (AppDataMem D × Nat)
  | [], s => some (s, 0)
  | line :: rest, s =>
    (row s (csvParseLine line)).bind fun (s, counts) =>
    (loadRowsMem row rest s).map fun (s, loaded) => (s, if counts then loaded + 1 else loaded)

/-- A loader, and whether it returns 1. -/
def loaderMem (file : Option (List Byte)) (required : List Str) (enough : Nat → Bool)
    (row : CsvRow → AppDataMem D → CsvRow → Option (AppDataMem D × Bool)) (s : AppDataMem D) :
    Option (AppDataMem D × Bool) :=
  match file with
  | none => some (s, false)
  | some text =>
    match fgetsAll 1024 text with
    | [] => some (s, false)
    | first :: lines =>
      let header := csvParseLine first
      if required.all fun name => csvFindHeader header name ≥ 0 then
        (loadRowsMem (row header) lines s).map fun (s, loaded) => (s, enough loaded)
      else some (s, false)

section Rows

variable (alloc : Allocator (Block D)) (header : CsvRow) (s : AppDataMem D) (row : CsvRow)

/-- A record is added where the search for its id ends at the end of the list. -/
def addNewMem (found : Option Ptr) (added : AppDataMem D) : Option (AppDataMem D × Bool) :=
  found.map fun p => if p = none then (added, true) else (s, false)

/-- The record of a row is handled, if the row has one. -/
def recordRowMem {α : Type} (record : Option α) (add : α → Option (AppDataMem D × Bool)) :
    Option (AppDataMem D × Bool) :=
  match record with
  | none => some (s, false)
  | some value => add value

def busRouteRowMem : Option (AppDataMem D × Bool) :=
  recordRowMem s (busRouteOf header row) fun route =>
    addNewMem s (findRouteByNoMem s route.routeNo) (routeAddMem alloc s route)

/-- `route` is a pointer into the list of routes. -/
def routeStopRowMem : Option (AppDataMem D × Bool) :=
  let routeNo := column header row (utf8 "route_no")
  let stopId := column header row (utf8 "stop_id")
  if strIsBlank routeNo || strIsBlank stopId then some (s, false)
  else
    (findRouteByNoMem s routeNo).bind fun route =>
    if route = none then some (s, false)
    else
      (findStopByIdMem s stopId).bind fun stop =>
      if stop = none then some (s, false)
      else
        let rs : RouteStopNode :=
          { routeNo := .copy _ routeNo
            seq := parseIntOrZero (column header row (utf8 "seq"))
            stopId := .copy _ stopId
            direction := .copy _ (column header row (utf8 "direction")) }
        (routeStopAddMem alloc s route rs).map fun s => (s, true)

def arrivalRowMem : Option (AppDataMem D × Bool) :=
  recordRowMem s (arrivalOf header row) fun arrival => some (arrivalAddMem alloc s arrival, true)

def crowdingRowMem : Option (AppDataMem D × Bool) :=
  recordRowMem s (crowdingOf header row) fun crowding => some (crowdingAddMem alloc s crowding, true)

end Rows

section Rows

variable [CDouble D] (alloc : Allocator (Block D)) (header : CsvRow) (s : AppDataMem D) (row : CsvRow)

def busStopRowMem : Option (AppDataMem D × Bool) :=
  recordRowMem s (busStopOf header row) fun stop =>
    addNewMem s (findStopByIdMem s stop.stopId) (stopAddMem alloc s stop)

def subwayStationRowMem : Option (AppDataMem D × Bool) :=
  recordRowMem s (subwayStationOf header row) fun station =>
    addNewMem s (findStationByIdMem s station.stationId) (stationAddMem alloc s station)

/-- The line is read from the first station's block where the row has none. -/
def subwayDistanceRowMem : Option (AppDataMem D × Bool) :=
  let fromId := column header row (utf8 "from_station_id")
  let toId := column header row (utf8 "to_station_id")
  if strIsBlank fromId || strIsBlank toId then some (s, false)
  else
    (findStationByIdMem s fromId).bind fun fromStation =>
    (findStationByIdMem s toId).bind fun toStation =>
    if fromStation = none ∨ toStation = none then some (s, false)
    else
      let lineNo := column header row (utf8 "line_no")
      let distanceKm := parseDoubleOrZero (column header row (utf8 "distance_km"))
      let estimatedMinutes := parseIntOrZero (column header row (utf8 "estimated_minutes"))
      (if strIsBlank lineNo then (stationKind.readNode s.mem fromStation).map fun node => node.1.lineNo
        else some (.copy _ lineNo)).map fun lineNo =>
      (subwayDistanceAddMem alloc s
        { fromStationId := .copy _ fromId
          toStationId := .copy _ toId
          lineNo := lineNo
          distanceKm := distanceKm
          estimatedMinutes :=
            if estimatedMinutes ≤ 0 then subwayMinutesFromDistance distanceKm else estimatedMinutes }, true)

def facilityRowMem : Option (AppDataMem D × Bool) :=
  recordRowMem s (facilityOf header row) fun facility => some (facilityAddMem alloc s facility, true)

end Rows

/-! ## The graph -/

section Graph

variable (alloc : Allocator (Block D))

def addStopNodeMem (s : AppDataMem D) (stop : StopNode D) : Option (AppDataMem D) :=
  (graphAddNodeMem alloc s stop.stopId stop.stopName (utf8 "bus_stop") stop.lat stop.lng).map Prod.fst

def addStationNodeMem (s : AppDataMem D) (station : StationNode D) : Option (AppDataMem D) :=
  (graphAddNodeMem alloc s station.stationId station.stationName (utf8 "subway_station")
    station.lat station.lng).map Prod.fst

/-- The pair of calls that joins two nodes in both directions. -/
def graphAddBothMem (s : AppDataMem D) (a b weightMin : Int) (routeNo : Str) : Option (AppDataMem D) :=
  ((graphAddEdgeMem alloc s a b weightMin routeNo).map Prod.fst).bind fun s =>
  (graphAddEdgeMem alloc s b a weightMin routeNo).map Prod.fst

/-- The nodes are looked up, and joined. -/
def joinMem (s : AppDataMem D) (fromId toId : Str) (weightMin : Int) (routeNo : Str) : Option (AppDataMem D) :=
  (graphFindNodeMem s fromId).bind fun a =>
  (graphFindNodeMem s toId).bind fun b => graphAddBothMem alloc s a b weightMin routeNo

def linkRouteStopsMem (routeNo : Str) :
    List RouteStopNode → Option RouteStopNode → AppDataMem D → Option (AppDataMem D)
  | [], _, s => some s
  | cur :: rest, none, s => linkRouteStopsMem routeNo rest (some cur) s
  | cur :: rest, some prev, s =>
    (joinMem alloc s prev.stopId cur.stopId 5 routeNo).bind fun s => linkRouteStopsMem routeNo rest (some cur) s

def linkRouteMem (s : AppDataMem D) (route : RouteNode) : Option (AppDataMem D) :=
  linkRouteStopsMem alloc route.routeNo route.stops none s

def linkSharedLineMem (station : StationNode D) (s : AppDataMem D) (other : StationNode D) : Option (AppDataMem D) :=
  match commonLineName station.lineNo other.lineNo maxRouteLen with
  | none => some s
  | some commonLine => joinMem alloc s station.stationId other.stationId 8 commonLine

def linkSharedLinesMem : List (StationNode D) → AppDataMem D → Option (AppDataMem D)
  | [], s => some s
  | station :: rest, s =>
    (rest.foldlM (linkSharedLineMem alloc station) s).bind fun s => linkSharedLinesMem rest s

variable [CDouble D]

/-- One row of the subway distances, and the number of rows used so far. -/
def linkDistanceMem (st : AppDataMem D × Nat) (distance : SubwayDistanceNode D) : Option (AppDataMem D × Nat) :=
  (graphFindNodeMem st.1 distance.fromStationId).bind fun a =>
  (graphFindNodeMem st.1 distance.toStationId).bind fun b =>
  let minutes :=
    if distance.estimatedMinutes > 0 then distance.estimatedMinutes
    else subwayMinutesFromDistance distance.distanceKm
  let lineNo := if strIsBlank distance.lineNo then utf8 "SUBWAY" else distance.lineNo
  if a < 0 ∨ b < 0 then some st
  else (graphAddBothMem alloc st.1 a b minutes lineNo).map fun s => (s, st.2 + 1)

/-- The other variables of the loop over the stations for one stop. -/
structure NearStation (D : Type) where
  nearestStation : Option (StationNode D)
  nearestDistance : D
  linkedNearStation : Bool

def linkNearStationMem (stop : StopNode D) (st : AppDataMem D × NearStation D) (station : StationNode D) :
    Option (AppDataMem D × NearStation D) :=
  if !hasCoordinates station.lat station.lng then some st
  else
    let distance := distanceSqKm stop.lat stop.lng station.lat station.lng
    let near :=
      if CDouble.lt distance st.2.nearestDistance then
        { st.2 with nearestDistance := distance, nearestStation := some station }
      else st.2
    if CDouble.le distance (CDouble.lit 9 0) then
      (joinMem alloc st.1 stop.stopId station.stationId (transferMinutesFromDistance distance) (utf8 "TRANSFER")).map
        fun s => (s, { near with linkedNearStation := true })
    else some (st.1, near)

def linkStopMem (s : AppDataMem D) (stop : StopNode D) : Option (AppDataMem D) :=
  if !hasCoordinates stop.lat stop.lng then some s
  else
    (readRecords stationList s).bind fun stations =>
    (stations.foldlM (linkNearStationMem alloc stop) (s, ⟨none, CDouble.lit 999999 0, false⟩)).bind fun (s, near) =>
    match near.linkedNearStation, near.nearestStation with
    | false, some station =>
      joinMem alloc s stop.stopId station.stationId (transferMinutesFromDistance near.nearestDistance) (utf8 "TRANSFER")
    | _, _ => some s

def dataLoaderBuildGraphMem (s : AppDataMem D) : Option (AppDataMem D × Bool) :=
  ((readRecords stopList s).bind fun stops => stops.foldlM (addStopNodeMem alloc) s).bind fun s =>
  ((readRecords stationList s).bind fun stations => stations.foldlM (addStationNodeMem alloc) s).bind fun s =>
  ((readRoutes s.mem s.routes).bind fun routes => routes.foldlM (linkRouteMem alloc) s).bind fun s =>
  ((readRecords subwayDistanceList s).bind fun distances => distances.foldlM (linkDistanceMem alloc) (s, 0)).bind
    fun (s, loadedSubwayEdges) =>
  (if loadedSubwayEdges = 0 then (readRecords stationList s).bind fun stations => linkSharedLinesMem alloc stations s
    else some s).bind fun s =>
  ((readRecords stopList s).bind fun stops => stops.foldlM (linkStopMem alloc) s).map fun s =>
  (s, decide (s.nodeCount > 0))

end Graph

/-! ## All files -/

/-- The store after loading, and whether every step returned 1. -/
def dataLoaderLoadMem [CDouble D] (alloc : Allocator (Block D)) (files : CsvFiles) (s : AppDataMem D) :
    Option (AppDataMem D × Bool) :=
  (loaderMem files.busStops [utf8 "stop_id", utf8 "stop_name"] (· > 0) (busStopRowMem alloc) s).bind
    fun (s, ok1) =>
  (loaderMem files.busRoutes [utf8 "route_no", utf8 "start_stop_id", utf8 "end_stop_id"] (· > 0)
    (busRouteRowMem alloc) s).bind fun (s, ok2) =>
  (loaderMem files.routeStops [utf8 "route_no", utf8 "seq", utf8 "stop_id"] (· > 0) (routeStopRowMem alloc) s).bind
    fun (s, ok3) =>
  (loaderMem files.subwayStations [utf8 "station_id", utf8 "station_name", utf8 "line_no"] (· > 0)
    (subwayStationRowMem alloc) s).bind fun (s, ok4) =>
  (loaderMem files.subwayDistances [utf8 "from_station_id", utf8 "to_station_id", utf8 "distance_km"] (· > 0)
    (subwayDistanceRowMem alloc) s).bind fun (s, ok5) =>
  (loaderMem files.facilities [utf8 "facility_id", utf8 "name", utf8 "category", utf8 "nearest_node_id"] (· ≥ 0)
    (facilityRowMem alloc) s).bind fun (s, ok6) =>
  (loaderMem files.arrivalTest
    [utf8 "route_no", utf8 "node_id", utf8 "time_slot", utf8 "arrival_minutes", utf8 "status"] (· ≥ 0)
    (arrivalRowMem alloc) s).bind fun (s, ok7) =>
  (loaderMem files.crowdingTest [utf8 "route_no", utf8 "node_id", utf8 "time_slot", utf8 "crowding_level"] (· ≥ 0)
    (crowdingRowMem alloc) s).bind fun (s, ok8) =>
  (dataLoaderBuildGraphMem alloc s).map fun (s, ok9) =>
  (s, ok1 && ok2 && ok3 && ok4 && ok5 && ok6 && ok7 && ok8 && ok9)

/-! ## Runs -/

section Runs

variable {alloc : Allocator (Block D)} {rest : Heap (Block D)} {s : AppDataMem D} {L : Layout D} {γ δ : Type}
  {r : Option γ} {store : γ → AppDataMem D} {store' : δ → AppDataMem D} {post : γ → AppData D → Prop}
  {post' : δ → AppData D → Prop}

/-- A run ends, and leaves a store that is laid out; where no allocation fails,
`post` holds of the result and the records. -/
def Runs (alloc : Allocator (Block D)) (rest : Heap (Block D)) (r : Option γ) (store : γ → AppDataMem D)
    (post : γ → AppData D → Prop) : Prop :=
  ∃ x L, r = some x ∧ Laid rest (store x) L ∧ (alloc.Total → post x L.data)

theorem Runs.pure {x : γ} (h : Laid rest (store x) L) (hpost : alloc.Total → post x L.data) :
    Runs alloc rest (some x) store post := ⟨x, L, rfl, h, hpost⟩

theorem Runs.mono {post' : γ → AppData D → Prop} (h : Runs alloc rest r store post)
    (hpost : ∀ x data, post x data → post' x data) : Runs alloc rest r store post' := by
  obtain ⟨x, L, hx, hlaid, hdata⟩ := h
  exact ⟨x, L, hx, hlaid, fun ht => hpost x L.data (hdata ht)⟩

theorem Runs.bind {f : γ → Option δ} (h : Runs alloc rest r store post)
    (hf : ∀ x L, Laid rest (store x) L → (alloc.Total → post x L.data) → Runs alloc rest (f x) store' post') :
    Runs alloc rest (r.bind f) store' post' := by
  obtain ⟨x, L, rfl, hlaid, hpost⟩ := h
  exact hf x L hlaid hpost

theorem Runs.map {f : γ → δ} (h : Runs alloc rest r store post) (hstore : ∀ x, store' (f x) = store x)
    (hpost : ∀ x data, post x data → post' (f x) data) : Runs alloc rest (r.map f) store' post' := by
  obtain ⟨x, L, rfl, hlaid, hx⟩ := h
  exact ⟨f x, L, rfl, (hstore x).symm ▸ hlaid, fun ht => hpost x L.data (hx ht)⟩

theorem KeepsLaid.runs {r : Option (AppDataMem D)} {f : Bool → AppData D} (h : KeepsLaid alloc rest r f) :
    Runs alloc rest r id fun _ data => data = f true := by
  obtain ⟨s, L, ok, rfl, hlaid, hdata, hok⟩ := h
  exact ⟨s, L, rfl, hlaid, fun ht => by rw [hdata, hok ht]⟩

/-! ## Files -/

/-- A row in memory does what it does on lists. -/
def RowRuns (alloc : Allocator (Block D)) (rest : Heap (Block D))
    (rowMem : AppDataMem D → CsvRow → Option (AppDataMem D × Bool)) (row : AppData D → CsvRow → Option (AppData D)) :
    Prop :=
  ∀ ⦃s L⦄, Laid rest s L → ∀ r, Runs alloc rest (rowMem s r) Prod.fst fun x data =>
    data = (row L.data r).getD L.data ∧ x.2 = (row L.data r).isSome

theorem RowRuns.loadRows {rowMem : AppDataMem D → CsvRow → Option (AppDataMem D × Bool)}
    {row : AppData D → CsvRow → Option (AppData D)} (hrow : RowRuns alloc rest rowMem row) (h : Laid rest s L)
    (lines : List Str) : Runs alloc rest (loadRowsMem rowMem lines s) Prod.fst fun x data =>
      (data, x.2) = loadRows row lines L.data := by
  induction lines generalizing s L with
  | nil => exact Runs.pure h fun _ => rfl
  | cons line lines ih =>
    rw [loadRowsMem]
    refine (hrow h (csvParseLine line)).bind fun ⟨s₁, counts⟩ L₁ h₁ hpost => ?_
    obtain ⟨⟨s₂, loaded⟩, L₂, hrest, h₂, hdata⟩ := ih h₁
    dsimp only
    rw [hrest]
    refine Runs.pure h₂ fun ht => ?_
    obtain ⟨hkept, hcounts⟩ := hpost ht
    have hloaded := hdata ht
    dsimp only at hkept hcounts hloaded ⊢
    rw [Transit.loadRows]
    cases hr : row L.data (csvParseLine line) with
    | none =>
      rw [hr, Option.getD_none] at hkept
      rw [hr, Option.isSome_none] at hcounts
      rw [hcounts, ← hkept]
      exact hloaded
    | some data' =>
      rw [hr, Option.getD_some] at hkept
      rw [hr, Option.isSome_some] at hcounts
      dsimp only
      rw [hcounts, ← hkept, ← hloaded]
      rfl

theorem RowRuns.loader {rowMem : CsvRow → AppDataMem D → CsvRow → Option (AppDataMem D × Bool)}
    {row : CsvRow → AppData D → CsvRow → Option (AppData D)}
    (hrow : ∀ header, RowRuns alloc rest (rowMem header) (row header))
    (h : Laid rest s L) (file : Option (List Byte)) (required : List Str) (enough : Nat → Bool) :
    Runs alloc rest (loaderMem file required enough rowMem s) Prod.fst fun x data =>
      (data, x.2) = loaderResult L.data enough (loadCsv file required row L.data) := by
  unfold loaderMem loadCsv
  cases file with
  | none => exact Runs.pure h fun _ => rfl
  | some text =>
    dsimp only
    cases fgetsAll 1024 text with
    | nil => exact Runs.pure h fun _ => rfl
    | cons first lines =>
      dsimp only
      by_cases hrequired : (required.all fun name => csvFindHeader (csvParseLine first) name ≥ 0) = true
      · rw [if_pos hrequired, if_pos hrequired]
        refine (RowRuns.loadRows (hrow _) h lines).map (fun _ => rfl) fun ⟨s', loaded⟩ data heq => ?_
        rw [← heq]
        rfl
      · rw [if_neg hrequired, if_neg hrequired]
        exact Runs.pure h fun _ => rfl

/-! ## Rows -/

/-- A record that is added counts. -/
theorem Laid.added {α : Type} (list : RecordList D α) (h : Laid rest s L) (value : α) :
    Runs alloc rest (some (recordAddMem alloc s list.toRootList value, true)) Prod.fst fun x data =>
      data = list.add L.data value ∧ x.2 = true := by
  obtain ⟨s', L', ok, hs', hlaid, hdata, hok⟩ := @Laid.recordAdd D alloc rest s L α list h value
  cases hs'
  exact Runs.pure hlaid fun ht => ⟨by rw [hdata, hok ht]; rfl, rfl⟩

/-- Looked up among the records of a list, and added where it is new. -/
theorem Laid.addNew {α : Type} (list : RecordList D α) (h : Laid rest s L) (same : α → Bool) (value : α) :
    Runs alloc rest (addNewMem s (findRecordMem s list.toRootList same) (recordAddMem alloc s list.toRootList value))
      Prod.fst fun x data => (data, x.2) =
        if (((list.records L).map Prod.snd).find? same).isNone then (list.add L.data value, true)
        else (L.data, false) := by
  unfold addNewMem
  rw [h.findRecord list, List.find?_map, Option.map_some, Option.isNone_map]
  cases hfind : (list.records L).find? fun c => same c.2 with
  | none =>
    rw [show ((list.records L).find? (same ∘ Prod.snd)) = none from hfind]
    exact (h.added list value).mono fun x data hpost => Prod.ext hpost.1 hpost.2
  | some c =>
    rw [show ((list.records L).find? (same ∘ Prod.snd)) = some c from hfind]
    exact Runs.pure h fun _ => rfl

/-- A row whose record is added at once. -/
theorem Laid.addRow {α : Type} (list : RecordList D α) (h : Laid rest s L) (record : Option α)
    {row : Option (AppData D)} (hrow : row = record.map (list.add L.data)) :
    Runs alloc rest (recordRowMem s record fun value => some (recordAddMem alloc s list.toRootList value, true))
      Prod.fst fun x data => data = row.getD L.data ∧ x.2 = row.isSome := by
  rw [hrow]
  cases record with
  | none => exact Runs.pure h fun _ => ⟨rfl, rfl⟩
  | some value => exact h.added list value

/-- A row whose record is added where its id is new. -/
theorem Laid.newRow {α : Type} (list : RecordList D α) (h : Laid rest s L) (record : Option α) (same : α → α → Bool)
    {row : Option (AppData D)} (hrow : row = record.bind fun value =>
      if (((list.records L).map Prod.snd).find? (same value)).isNone then some (list.add L.data value) else none) :
    Runs alloc rest (recordRowMem s record fun value => addNewMem s (findRecordMem s list.toRootList (same value))
      (recordAddMem alloc s list.toRootList value)) Prod.fst
        fun x data => data = row.getD L.data ∧ x.2 = row.isSome := by
  rw [hrow]
  cases record with
  | none => exact Runs.pure h fun _ => ⟨rfl, rfl⟩
  | some value =>
    refine (h.addNew list (same value) value).mono fun x data heq => ?_
    rw [Option.bind_some]
    split at heq
    · rename_i hnew
      rw [if_pos hnew]
      exact Prod.ext_iff.mp heq
    · rename_i hold
      rw [if_neg hold]
      exact Prod.ext_iff.mp heq

theorem arrivalRow_runs (header : CsvRow) :
    RowRuns (D := D) alloc rest (arrivalRowMem alloc header) (arrivalRow header) :=
  fun _ _ h r => h.addRow arrivalRecords (arrivalOf header r) rfl

theorem crowdingRow_runs (header : CsvRow) :
    RowRuns (D := D) alloc rest (crowdingRowMem alloc header) (crowdingRow header) :=
  fun _ _ h r => h.addRow crowdingRecords (crowdingOf header r) rfl

theorem busRouteRow_runs (header : CsvRow) :
    RowRuns (D := D) alloc rest (busRouteRowMem alloc header) (busRouteRow header) := by
  intro s L h r
  have hrow : busRouteRow header L.data r = (busRouteOf header r).bind fun route =>
      if (findRouteByNo L.data route.routeNo).isNone then some (routeAdd L.data route) else none := by
    unfold busRouteRow busRouteOf
    by_cases hblank : strIsBlank (column header r (utf8 "route_no")) = true
    · simp only [if_pos hblank]
      rfl
    · simp only [if_neg hblank]
      rfl
  unfold busRouteRowMem
  rw [hrow]
  cases busRouteOf header r with
  | none => exact Runs.pure h fun _ => ⟨rfl, rfl⟩
  | some route =>
    have hfound : (findRouteByNo L.data route.routeNo).isNone =
        ((L.routes.find? fun r => r.2.1.routeNo.val == route.routeNo.val).map Prod.fst).isNone := by
      unfold findRouteByNo
      rw [show L.data.routes = L.routes.map routeRecord from rfl, List.find?_map, Option.isNone_map, Option.isNone_map]
      rfl
    unfold recordRowMem addNewMem
    dsimp only
    rw [h.findRouteByNo, Option.map_some, Option.bind_some, hfound]
    cases (L.routes.find? fun r => r.2.1.routeNo.val == route.routeNo.val).map Prod.fst with
    | none =>
      obtain ⟨s', L', ok, hs', hlaid, hdata, hok⟩ := @Laid.routeAdd D alloc rest s L h route
      cases hs'
      exact Runs.pure hlaid fun ht => ⟨by rw [hdata, hok ht]; rfl, rfl⟩
    | some q => exact Runs.pure h fun _ => ⟨rfl, rfl⟩

/-- A stop is found in memory where it is found on lists. -/
theorem Laid.findStopById (h : Laid rest s L) (stopId : Str) :
    ∃ found, findStopByIdMem s stopId = some found ∧ (found = none ↔ Transit.findStopById L.data stopId = none) := by
  refine ⟨_, h.findRecord stopRecords _, ?_⟩
  unfold Transit.findStopById
  rw [Option.map_eq_none_iff, show L.data.stops = L.stops.map Prod.snd from rfl, List.find?_map, Option.map_eq_none_iff]
  rfl

theorem routeStopRow_runs (header : CsvRow) :
    RowRuns (D := D) alloc rest (routeStopRowMem alloc header) (routeStopRow header) := by
  intro s L h r
  unfold routeStopRowMem routeStopRow
  dsimp only
  by_cases hblank : (strIsBlank (column header r (utf8 "route_no")) ||
      strIsBlank (column header r (utf8 "stop_id"))) = true
  · rw [if_pos hblank, if_pos hblank]
    exact Runs.pure h fun _ => ⟨rfl, rfl⟩
  rw [if_neg hblank, if_neg hblank]
  generalize column header r (utf8 "route_no") = routeNo
  generalize column header r (utf8 "stop_id") = stopId
  obtain ⟨found, hstop, hnone⟩ := h.findStopById stopId
  have hroute : (findRouteByNo L.data routeNo).isNone =
      ((L.routes.find? fun r => r.2.1.routeNo.val == routeNo).map Prod.fst).isNone := by
    unfold findRouteByNo
    rw [show L.data.routes = L.routes.map routeRecord from rfl, List.find?_map, Option.isNone_map, Option.isNone_map]
    rfl
  have hadd := fun value => @Laid.routeStopAdd D alloc rest s L h routeNo value
  rw [h.findRouteByNo] at hadd ⊢
  rw [Option.bind_some, hroute, hstop, Option.bind_some]
  simp only [Option.bind_some] at hadd
  cases hfound : (L.routes.find? fun r => r.2.1.routeNo.val == routeNo).map Prod.fst with
  | none => exact Runs.pure h fun _ => ⟨rfl, rfl⟩
  | some q =>
    rw [hfound] at hadd
    rw [if_neg (Option.some_ne_none q), Option.isNone_some, Bool.false_or]
    cases found with
    | none =>
      rw [if_pos rfl, if_pos (by rw [hnone.mp rfl]; rfl)]
      exact Runs.pure h fun _ => ⟨rfl, rfl⟩
    | some p =>
      have hsome : ¬ (Transit.findStopById L.data stopId).isNone = true := fun hnil =>
        Option.some_ne_none p (hnone.mpr (Option.isNone_iff_eq_none.mp hnil))
      rw [if_neg (Option.some_ne_none p), if_neg hsome]
      exact (hadd _).runs.map (fun _ => rfl) fun _ data heq => ⟨heq, rfl⟩

variable [CDouble D]

theorem busStopRow_runs (header : CsvRow) :
    RowRuns (D := D) alloc rest (busStopRowMem alloc header) (busStopRow header) := by
  intro s L h r
  refine h.newRow stopRecords (busStopOf header r) (fun stop other => other.stopId.val == stop.stopId.val) ?_
  unfold busStopRow busStopOf
  by_cases hblank : strIsBlank (column header r (utf8 "stop_id")) = true
  · simp only [if_pos hblank]
    rfl
  · simp only [if_neg hblank]
    rfl

theorem subwayStationRow_runs (header : CsvRow) :
    RowRuns (D := D) alloc rest (subwayStationRowMem alloc header) (subwayStationRow header) := by
  intro s L h r
  refine h.newRow stationRecords (subwayStationOf header r)
    (fun station other => other.stationId.val == station.stationId.val) ?_
  unfold subwayStationRow subwayStationOf
  by_cases hblank : strIsBlank (column header r (utf8 "station_id")) = true
  · simp only [if_pos hblank]
    rfl
  · simp only [if_neg hblank]
    rfl

theorem facilityRow_runs (header : CsvRow) :
    RowRuns (D := D) alloc rest (facilityRowMem alloc header) (facilityRow header) := by
  intro s L h r
  refine h.addRow facilityRecords (facilityOf header r) ?_
  unfold facilityRow facilityOf
  by_cases hblank : strIsBlank (column header r (utf8 "facility_id")) = true
  · simp only [if_pos hblank]
    rfl
  · simp only [if_neg hblank]
    rfl

omit [CDouble D] in
/-- A record found is read from its block. -/
theorem Laid.readFound {α : Type} (list : RecordList D α) (h : Laid rest s L) {p : α → Bool} {q : Addr} {value : α}
    (hfind : (list.records L).find? (fun c => p c.2) = some (q, value)) :
    ∃ next, list.kind.readNode s.mem (some q) = some (value, next) := by
  obtain ⟨-, before, after, hsplit, -⟩ := List.find?_eq_some_iff_append.mp hfind
  have howns := h.owns_records list
  rw [hsplit] at howns
  exact ⟨_, (howns.update value).1⟩

omit [CDouble D] in
/-- A station is found in memory where it is found on lists, and has the same contents. -/
theorem Laid.findStationById (h : Laid rest s L) (stationId : Str) :
    ∃ found, findStationByIdMem s stationId = some found ∧
      (found = none ↔ Transit.findStationById L.data stationId = none) ∧
      ∀ station, Transit.findStationById L.data stationId = some station →
        ∃ next, stationKind.readNode s.mem found = some (station, next) := by
  have hlist : Transit.findStationById L.data stationId =
      (L.stations.find? fun c => c.2.stationId.val == stationId).map Prod.snd := by
    unfold Transit.findStationById
    rw [show L.data.stations = L.stations.map Prod.snd from rfl, List.find?_map]
    rfl
  refine ⟨_, h.findRecord stationRecords _, ?_, fun station hstation => ?_⟩
  · rw [hlist, Option.map_eq_none_iff, Option.map_eq_none_iff]
    rfl
  · rw [hlist] at hstation
    obtain ⟨⟨q, value⟩, hfind, rfl⟩ := Option.map_eq_some_iff.mp hstation
    obtain ⟨next, hread⟩ := h.readFound stationRecords (p := fun c => c.stationId.val == stationId) hfind
    refine ⟨next, ?_⟩
    rw [show (stationRecords.records L).find? (fun c => c.2.stationId.val == stationId) = some (q, value) from hfind]
    exact hread

theorem subwayDistanceRow_runs (header : CsvRow) :
    RowRuns (D := D) alloc rest (subwayDistanceRowMem alloc header) (subwayDistanceRow header) := by
  intro s L h r
  unfold subwayDistanceRowMem subwayDistanceRow
  dsimp only
  by_cases hblank : (strIsBlank (column header r (utf8 "from_station_id")) ||
      strIsBlank (column header r (utf8 "to_station_id"))) = true
  · rw [if_pos hblank, if_pos hblank]
    exact Runs.pure h fun _ => ⟨rfl, rfl⟩
  rw [if_neg hblank, if_neg hblank]
  generalize column header r (utf8 "from_station_id") = fromId
  generalize column header r (utf8 "to_station_id") = toId
  obtain ⟨p, hp, hpnone, hpread⟩ := h.findStationById fromId
  obtain ⟨q, hq, hqnone, -⟩ := h.findStationById toId
  rw [hp, hq, Option.bind_some, Option.bind_some]
  cases hfrom : Transit.findStationById L.data fromId with
  | none =>
    rw [if_pos (.inl (hpnone.mpr hfrom))]
    exact Runs.pure h fun _ => ⟨rfl, rfl⟩
  | some fromStation =>
    cases hto : Transit.findStationById L.data toId with
    | none =>
      rw [if_pos (.inr (hqnone.mpr hto))]
      exact Runs.pure h fun _ => ⟨rfl, rfl⟩
    | some toStation =>
      have hfound : ¬ (p = none ∨ q = none) := by
        rintro (hnil | hnil)
        · exact absurd (hpnone.mp hnil) (by rw [hfrom]; exact Option.some_ne_none _)
        · exact absurd (hqnone.mp hnil) (by rw [hto]; exact Option.some_ne_none _)
      obtain ⟨next, hread⟩ := hpread fromStation hfrom
      rw [if_neg hfound, hread]
      have hline : (if strIsBlank (column header r (utf8 "line_no")) = true then
            (some (fromStation, next)).map fun node => node.1.lineNo
          else some (.copy maxRouteLen (column header r (utf8 "line_no")))) =
          some (if strIsBlank (column header r (utf8 "line_no")) = true then fromStation.lineNo
            else .copy maxRouteLen (column header r (utf8 "line_no"))) := by
        split <;> rfl
      rw [hline, Option.map_some]
      exact h.added subwayDistanceRecords _

end Runs

/-! ## The graph -/

section GraphRuns

variable {alloc : Allocator (Block D)} {rest : Heap (Block D)}

/-- A part of the building of the graph does in memory what it does on lists. -/
def GraphStep (alloc : Allocator (Block D)) (rest : Heap (Block D)) (fMem : AppDataMem D → Option (AppDataMem D))
    (f : AppData D → TransferGraph D) : Prop :=
  ∀ ⦃s L⦄, Laid rest s L → Runs alloc rest (fMem s) id fun _ data => data = { L.data with graph := f L.data }

/-- The same with other variables beside the store; `abs` is what both together stand for. -/
def GraphLoop {β σ : Type} (alloc : Allocator (Block D)) (rest : Heap (Block D)) (abs : TransferGraph D → β → σ)
    (fMem : AppDataMem D × β → Option (AppDataMem D × β)) (f : σ → σ) : Prop :=
  ∀ ⦃s L b⦄, Laid rest s L → Runs alloc rest (fMem (s, b)) Prod.fst fun x data =>
    data = { L.data with graph := data.graph } ∧ abs data.graph x.2 = f (abs L.data.graph b)

theorem GraphStep.bind {fMem gMem : AppDataMem D → Option (AppDataMem D)} {f g : AppData D → TransferGraph D}
    (hf : GraphStep alloc rest fMem f) (hg : GraphStep alloc rest gMem g) :
    GraphStep alloc rest (fun s => (fMem s).bind gMem) fun data => g { data with graph := f data } := by
  intro s L h
  refine (hf h).bind fun s₁ L₁ h₁ hpost => ?_
  obtain ⟨s₂, L₂, hrun, h₂, hdata⟩ := hg h₁
  refine ⟨s₂, L₂, hrun, h₂, fun ht => ?_⟩
  rw [hdata ht, hpost ht]

theorem GraphStep.foldlM {ι : Type} {fMem : AppDataMem D → ι → Option (AppDataMem D)}
    {f : AppData D → ι → TransferGraph D} (hf : ∀ x, GraphStep alloc rest (fMem · x) (f · x)) (xs : List ι) :
    GraphStep alloc rest (fun s => xs.foldlM fMem s) fun data =>
      xs.foldl (fun g x => f { data with graph := g } x) data.graph := by
  induction xs with
  | nil => exact fun _ _ h => Runs.pure h fun _ => rfl
  | cons x xs ih =>
    intro s L h
    show Runs alloc rest ((x :: xs).foldlM fMem s) id _
    rw [List.foldlM_cons]
    exact (hf x).bind ih h

theorem GraphLoop.foldlM {β σ ι : Type} {abs : TransferGraph D → β → σ}
    {fMem : AppDataMem D × β → ι → Option (AppDataMem D × β)} {f : σ → ι → σ}
    (hf : ∀ x, GraphLoop alloc rest abs (fMem · x) (f · x)) (xs : List ι) :
    GraphLoop alloc rest abs (fun st => xs.foldlM fMem st) fun a => xs.foldl f a := by
  induction xs with
  | nil => exact fun _ _ _ h => Runs.pure h fun _ => ⟨rfl, rfl⟩
  | cons x xs ih =>
    intro s L b h
    show Runs alloc rest ((x :: xs).foldlM fMem (s, b)) Prod.fst _
    rw [List.foldlM_cons]
    refine (hf x h).bind fun ⟨s₁, b₁⟩ L₁ h₁ hpost => ?_
    obtain ⟨x₂, L₂, hrun, h₂, hdata⟩ := @ih s₁ L₁ b₁ h₁
    refine ⟨x₂, L₂, hrun, h₂, fun ht => ?_⟩
    obtain ⟨hrecords₁, habs₁⟩ := hpost ht
    obtain ⟨hrecords₂, habs₂⟩ := hdata ht
    exact ⟨hrecords₂.trans (by rw [hrecords₁]), habs₂.trans (congrArg (xs.foldl f) habs₁)⟩

/-- A part that reads something of the store first. -/
theorem GraphStep.read {ι : Type} {read : AppDataMem D → Option ι} {of : AppData D → ι}
    (hread : ∀ ⦃s L⦄, Laid rest s L → read s = some (of L.data)) {fMem : ι → AppDataMem D → Option (AppDataMem D)}
    {f : ι → AppData D → TransferGraph D} (hf : ∀ x, GraphStep alloc rest (fMem x) (f x)) :
    GraphStep alloc rest (fun s => (read s).bind fun x => fMem x s) fun data => f (of data) data := by
  intro s L h
  dsimp only
  rw [hread h, Option.bind_some]
  exact hf _ h

theorem readRecords_stops ⦃s : AppDataMem D⦄ ⦃L : Layout D⦄ (h : Laid rest s L) :
    readRecords stopList s = some L.data.stops := h.readList stopRecords

theorem readRecords_stations ⦃s : AppDataMem D⦄ ⦃L : Layout D⦄ (h : Laid rest s L) :
    readRecords stationList s = some L.data.stations := h.readList stationRecords

theorem addStopNode_step (stop : StopNode D) :
    GraphStep alloc rest (addStopNodeMem alloc · stop) fun data => addStopNode data.graph stop :=
  fun _ _ h => (h.graphAddNode alloc stop.stopId stop.stopName (utf8 "bus_stop") stop.lat stop.lng).runs

theorem addStationNode_step (station : StationNode D) :
    GraphStep alloc rest (addStationNodeMem alloc · station) fun data => addStationNode data.graph station :=
  fun _ _ h => (h.graphAddNode alloc station.stationId station.stationName (utf8 "subway_station") station.lat
    station.lng).runs

theorem graphAddBoth_step (a b weightMin : Int) (routeNo : Str) :
    GraphStep alloc rest (graphAddBothMem alloc · a b weightMin routeNo) fun data =>
      graphAddBoth data.graph a b weightMin routeNo :=
  GraphStep.bind (f := fun data => (graphAddEdge true data.graph a b weightMin routeNo).1)
    (g := fun data => (graphAddEdge true data.graph b a weightMin routeNo).1)
    (fun _ _ h => (h.graphAddEdge alloc a b weightMin routeNo).runs)
    (fun _ _ h => (h.graphAddEdge alloc b a weightMin routeNo).runs)

theorem join_step (fromId toId : Str) (weightMin : Int) (routeNo : Str) :
    GraphStep alloc rest (joinMem alloc · fromId toId weightMin routeNo) fun data =>
      graphAddBoth data.graph (graphFindNode data.graph fromId) (graphFindNode data.graph toId) weightMin routeNo := by
  intro s L h
  unfold joinMem
  dsimp only
  rw [h.graphFindNode, Option.bind_some, h.graphFindNode, Option.bind_some]
  exact graphAddBoth_step _ _ weightMin routeNo h

theorem linkRouteStops_step (routeNo : Str) (stops : List RouteStopNode) (prev : Option RouteStopNode) :
    GraphStep alloc rest (linkRouteStopsMem alloc routeNo stops prev) fun data =>
      linkRouteStops routeNo stops prev data.graph := by
  induction stops generalizing prev with
  | nil => exact fun _ _ h => Runs.pure h fun _ => rfl
  | cons cur stops ih =>
    cases prev with
    | none => exact ih (some cur)
    | some prev => exact (join_step prev.stopId cur.stopId 5 routeNo).bind (ih (some cur))

theorem linkSharedLine_step (station other : StationNode D) :
    GraphStep alloc rest (linkSharedLineMem alloc station · other) fun data =>
      linkSharedLine station data.graph other := by
  unfold linkSharedLineMem linkSharedLine
  cases commonLineName station.lineNo other.lineNo maxRouteLen with
  | none => exact fun _ _ h => Runs.pure h fun _ => rfl
  | some commonLine => exact join_step station.stationId other.stationId 8 commonLine

theorem linkSharedLines_step (stations : List (StationNode D)) :
    GraphStep alloc rest (linkSharedLinesMem alloc stations) fun data => linkSharedLines stations data.graph := by
  induction stations with
  | nil => exact fun _ _ h => Runs.pure h fun _ => rfl
  | cons station stations ih =>
    exact (GraphStep.foldlM (fun other => linkSharedLine_step station other) stations).bind ih

variable [CDouble D]

theorem linkDistance_loop (distance : SubwayDistanceNode D) :
    GraphLoop alloc rest Prod.mk (linkDistanceMem alloc · distance) (linkDistance · distance) := by
  intro s L n h
  unfold linkDistanceMem linkDistance
  dsimp only
  rw [h.graphFindNode, Option.bind_some, h.graphFindNode, Option.bind_some]
  by_cases hmissing : graphFindNode L.data.graph distance.fromStationId < 0 ∨
      graphFindNode L.data.graph distance.toStationId < 0
  · rw [if_pos hmissing, if_pos hmissing]
    exact Runs.pure h fun _ => ⟨rfl, rfl⟩
  · rw [if_neg hmissing, if_neg hmissing]
    refine (graphAddBoth_step _ _ _ _ h).map (fun _ => rfl) fun _ data heq => ?_
    rw [heq]
    exact ⟨rfl, rfl⟩

/-- The variables of the loop over the stations. -/
def stopLinks (g : TransferGraph D) (near : NearStation D) : StopLinks D :=
  ⟨g, near.nearestStation, near.nearestDistance, near.linkedNearStation⟩

theorem linkNearStation_loop (stop : StopNode D) (station : StationNode D) :
    GraphLoop alloc rest stopLinks (linkNearStationMem alloc stop · station) (linkNearStation stop · station) := by
  intro s L near h
  unfold linkNearStationMem linkNearStation
  beta_reduce
  by_cases hplace : (!hasCoordinates station.lat station.lng) = true
  · rw [if_pos hplace, if_pos hplace]
    exact Runs.pure h fun _ => ⟨rfl, rfl⟩
  rw [if_neg hplace, if_neg hplace]
  dsimp only
  generalize distanceSqKm stop.lat stop.lng station.lat station.lng = distance
  have hnear : (if CDouble.lt distance (stopLinks L.data.graph near).nearestDistance = true then
        { stopLinks L.data.graph near with nearestDistance := distance, nearestStation := some station }
      else stopLinks L.data.graph near) = stopLinks L.data.graph
        (if CDouble.lt distance near.nearestDistance = true then
          { near with nearestDistance := distance, nearestStation := some station } else near) := by
    rw [apply_ite (stopLinks L.data.graph)]
    rfl
  rw [hnear]
  generalize (if CDouble.lt distance near.nearestDistance = true then
    { near with nearestDistance := distance, nearestStation := some station } else near) = near'
  by_cases hclose : CDouble.le distance (CDouble.lit 9 0) = true
  · rw [if_pos hclose, if_pos hclose]
    refine (join_step _ _ _ _ h).map (fun _ => rfl) fun _ data heq => ?_
    rw [heq]
    exact ⟨rfl, rfl⟩
  · rw [if_neg hclose, if_neg hclose]
    exact Runs.pure h fun _ => ⟨rfl, rfl⟩

theorem linkStop_step (stop : StopNode D) :
    GraphStep alloc rest (linkStopMem alloc · stop) fun data => linkStop data.stations data.graph stop := by
  intro s L h
  unfold linkStopMem linkStop
  beta_reduce
  by_cases hplace : (!hasCoordinates stop.lat stop.lng) = true
  · rw [if_pos hplace, if_pos hplace]
    exact Runs.pure h fun _ => rfl
  rw [if_neg hplace, if_neg hplace, readRecords_stations h, Option.bind_some]
  have hloop := @GraphLoop.foldlM D alloc rest _ _ _ stopLinks _ _ (linkNearStation_loop stop) L.data.stations
    s L ⟨none, CDouble.lit 999999 0, false⟩ h
  refine hloop.bind fun ⟨s₁, near⟩ L₁ h₁ hpost => ?_
  have hlinks : alloc.Total → L.data.stations.foldl (linkNearStation stop)
      ⟨L.data.graph, none, CDouble.lit 999999 0, false⟩ = stopLinks L₁.data.graph near := fun ht => (hpost ht).2.symm
  obtain ⟨nearest, distance, linked⟩ := near
  dsimp only
  cases linked with
  | true =>
    refine Runs.pure h₁ fun ht => ?_
    rw [hlinks ht]
    exact (hpost ht).1
  | false =>
    cases nearest with
    | none =>
      refine Runs.pure h₁ fun ht => ?_
      rw [hlinks ht]
      exact (hpost ht).1
    | some station =>
      obtain ⟨s₂, L₂, hrun, h₂, hdata⟩ := join_step stop.stopId station.stationId
        (transferMinutesFromDistance distance) (utf8 "TRANSFER") h₁
      refine ⟨s₂, L₂, hrun, h₂, fun ht => ?_⟩
      dsimp only
      rw [hdata ht, hlinks ht]
      conv_lhs => rw [(hpost ht).1]
      rfl

/-- The graph is built in memory as on lists. -/
theorem buildGraph_runs {s : AppDataMem D} {L : Layout D} (h : Laid rest s L) :
    Runs alloc rest (dataLoaderBuildGraphMem alloc s) Prod.fst fun x data =>
      (data, x.2) = dataLoaderBuildGraph L.data := by
  have hstops : GraphStep alloc rest (fun s => (readRecords stopList s).bind fun stops =>
      stops.foldlM (addStopNodeMem alloc) s) fun data => data.stops.foldl addStopNode data.graph :=
    GraphStep.read readRecords_stops fun stops => GraphStep.foldlM addStopNode_step stops
  have hstations : GraphStep alloc rest (fun s => (readRecords stationList s).bind fun stations =>
      stations.foldlM (addStationNodeMem alloc) s) fun data => data.stations.foldl addStationNode data.graph :=
    GraphStep.read readRecords_stations fun stations => GraphStep.foldlM addStationNode_step stations
  have hroutes : GraphStep alloc rest (fun s => (readRoutes s.mem s.routes).bind fun routes =>
      routes.foldlM (linkRouteMem alloc) s) fun data => data.routes.foldl linkRoute data.graph :=
    GraphStep.read (fun _ _ h => h.readRoutes) fun routes =>
      GraphStep.foldlM (fun route => linkRouteStops_step route.routeNo route.stops none) routes
  have hdistances : ∀ {s L}, Laid rest s L → Runs alloc rest ((readRecords subwayDistanceList s).bind fun distances =>
      distances.foldlM (linkDistanceMem alloc) (s, 0)) Prod.fst fun x data =>
        data = { L.data with graph := data.graph } ∧
          (data.graph, x.2) = L.data.subwayDistances.foldl linkDistance (L.data.graph, 0) := by
    intro s L h
    have hread : readRecords subwayDistanceList s = some L.data.subwayDistances := h.readList subwayDistanceRecords
    rw [hread, Option.bind_some]
    exact GraphLoop.foldlM linkDistance_loop L.data.subwayDistances h
  have hshared : ∀ n, GraphStep alloc rest (fun s => if n = 0 then
      (readRecords stationList s).bind fun stations => linkSharedLinesMem alloc stations s else some s)
      fun data => if n = 0 then linkSharedLines data.stations data.graph else data.graph := by
    intro n s L h
    dsimp only
    by_cases hn : n = 0
    · rw [if_pos hn, if_pos hn]
      exact GraphStep.read readRecords_stations linkSharedLines_step h
    · rw [if_neg hn, if_neg hn]
      exact Runs.pure h fun _ => rfl
  have htransfers : GraphStep alloc rest (fun s => (readRecords stopList s).bind fun stops =>
      stops.foldlM (linkStopMem alloc) s) fun data => data.stops.foldl (linkStop data.stations) data.graph :=
    GraphStep.read readRecords_stops fun stops => GraphStep.foldlM linkStop_step stops
  unfold dataLoaderBuildGraphMem
  refine (hstops h).bind fun s₁ L₁ h₁ hdata₁ => (hstations h₁).bind fun s₂ L₂ h₂ hdata₂ =>
    (hroutes h₂).bind fun s₃ L₃ h₃ hdata₃ => (hdistances h₃).bind fun ⟨s₄, n⟩ L₄ h₄ hdata₄ =>
    (hshared n h₄).bind fun s₅ L₅ h₅ hdata₅ => ?_
  obtain ⟨s₆, L₆, hrun, h₆, hdata₆⟩ := @htransfers s₅ L₅ h₅
  dsimp only at hrun
  rw [hrun]
  refine Runs.pure h₆ fun ht => ?_
  have hcount : decide (s₆.nodeCount > 0) = decide (L₆.data.graph.nodeCount > 0) := by
    rw [show L₆.data.graph.nodeCount = s₆.nodeCount from (List.length_map _).trans h₆.nodeCount.symm]
  obtain ⟨hrecords₄, hgraph₄⟩ := hdata₄ ht
  dsimp only at hcount hgraph₄ ⊢
  rw [hcount, hdata₆ ht, hdata₅ ht, hrecords₄]
  rw [hdata₃ ht, hdata₂ ht, hdata₁ ht] at hgraph₄ ⊢
  unfold dataLoaderBuildGraph
  dsimp only at hgraph₄ ⊢
  rw [← hgraph₄]

end GraphRuns

/-- The loader in memory, with any allocator and beside any other blocks: no access
goes wrong, and `app_data_free` leaves the other blocks and nothing else. Where no
allocation fails, the pointers lead to the records and the graph that the loader
gives on lists, and it returns the same. -/
theorem dataLoader_memory [CDouble D] (alloc : Allocator (Block D)) (rest : Heap (Block D)) (files : CsvFiles) :
    ∃ s ok, dataLoaderLoadMem alloc files (appDataInitMem ⟨rest, 0⟩) = some (s, ok) ∧
      (alloc.Total → readAppData s = some (loadedData files) ∧ ok = (dataLoaderLoad files : AppData D × Bool).2) ∧
      ∃ mem, appDataFreeMem s = some (appDataInitMem mem) ∧ mem.heap = rest := by
  have hloads : Runs alloc rest (dataLoaderLoadMem alloc files (appDataInitMem ⟨rest, 0⟩)) Prod.fst fun x data =>
      (data, x.2) = dataLoaderLoad files := by
    unfold dataLoaderLoadMem
    refine (RowRuns.loader busStopRow_runs (laid_init rest) _ _ _).bind fun ⟨s₁, ok₁⟩ L₁ h₁ hdata₁ =>
      (RowRuns.loader busRouteRow_runs h₁ _ _ _).bind fun ⟨s₂, ok₂⟩ L₂ h₂ hdata₂ =>
      (RowRuns.loader routeStopRow_runs h₂ _ _ _).bind fun ⟨s₃, ok₃⟩ L₃ h₃ hdata₃ =>
      (RowRuns.loader subwayStationRow_runs h₃ _ _ _).bind fun ⟨s₄, ok₄⟩ L₄ h₄ hdata₄ =>
      (RowRuns.loader subwayDistanceRow_runs h₄ _ _ _).bind fun ⟨s₅, ok₅⟩ L₅ h₅ hdata₅ =>
      (RowRuns.loader facilityRow_runs h₅ _ _ _).bind fun ⟨s₆, ok₆⟩ L₆ h₆ hdata₆ =>
      (RowRuns.loader arrivalRow_runs h₆ _ _ _).bind fun ⟨s₇, ok₇⟩ L₇ h₇ hdata₇ =>
      (RowRuns.loader crowdingRow_runs h₇ _ _ _).bind fun ⟨s₈, ok₈⟩ L₈ h₈ hdata₈ => ?_
    obtain ⟨⟨s₉, ok₉⟩, L₉, hrun, h₉, hdata₉⟩ := @buildGraph_runs D alloc rest _ s₈ L₈ h₈
    dsimp only
    rw [hrun]
    refine Runs.pure h₉ fun ht => ?_
    have hempty : (Layout.empty : Layout D).data = appDataInit := rfl
    unfold dataLoaderLoad loadBusStops loadBusRoutes loadRouteStops loadSubwayStations loadSubwayDistances
      loadFacilities loadArrivals loadCrowdings
    rw [hempty] at hdata₁
    dsimp only at hdata₁ hdata₂ hdata₃ hdata₄ hdata₅ hdata₆ hdata₇ hdata₈ hdata₉ ⊢
    rw [← hdata₁ ht]
    dsimp only
    rw [← hdata₂ ht]
    dsimp only
    rw [← hdata₃ ht]
    dsimp only
    rw [← hdata₄ ht]
    dsimp only
    rw [← hdata₅ ht]
    dsimp only
    rw [← hdata₆ ht]
    dsimp only
    rw [← hdata₇ ht]
    dsimp only
    rw [← hdata₈ ht]
    dsimp only
    rw [← hdata₉ ht]
  obtain ⟨⟨s, ok⟩, L, hrun, hlaid, hdata⟩ := hloads
  refine ⟨s, ok, hrun, fun ht => ?_, hlaid.free⟩
  obtain ⟨hrecords, hok⟩ := Prod.ext_iff.mp (hdata ht)
  exact ⟨hlaid.read.trans (congrArg some hrecords), hok⟩

end Transit
