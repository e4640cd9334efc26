import Transit.Common.CsvParser
import Transit.Common.LinkedList

/-!
# Loading the CSV files and building the graph (`server/data_loader.c`)

`CsvFiles` are the contents of the files, `none` where a file can be opened
neither in `data/` nor in `../data/`. Every loader keeps what it has read,
whatever it returns. Logging is left out; allocations succeed.
-/

namespace Transit

variable {D : Type} [CDouble D]

structure CsvFiles where
  busStops : Option (List Byte)
  busRoutes : Option (List Byte)
  routeStops : Option (List Byte)
  subwayStations : Option (List Byte)
  subwayDistances : Option (List Byte)
  facilities : Option (List Byte)
  arrivalTest : Option (List Byte)
  crowdingTest : Option (List Byte)

def zero : D := CDouble.lit 0 0

def parseDoubleOrZero (s : Str) : D := if s = [] then zero else CDouble.atof s

def parseIntOrZero (s : Str) : Int := if s = [] then 0 else atoi s

def isPlaceholderStopName (name : Str) : Bool :=
  strIsBlank name || name == utf8 "0" || name == utf8 "1"

/-- The loop over the rows below the header. A row that is skipped gives
`none`; the number of the others is `loaded`. -/
def loadRows {σ : Type} (row : σ → CsvRow → Option σ) : List Str → σ → σ × Nat
  | [], data => (data, 0)
  | line :: rest, data =>
    match row data (csvParseLine line) with
    | none => loadRows row rest data
    | some data =>
      let (data, loaded) := loadRows row rest data
      (data, loaded + 1)

/-- What all loaders share: open the file, read the header, look for the
columns it must have, read the rows. `none` where a loader gives up. -/
def loadCsv {σ : Type} (file : Option (List Byte)) (required : List Str)
    (row : CsvRow → σ → CsvRow → Option σ) (data : σ) : Option (σ × Nat) :=
  match file with
  | none => none
  | some text =>
    match fgetsAll 1024 text with
    | [] => none
    | first :: lines =>
      let header := csvParseLine first
      if required.all fun name => csvFindHeader header name ≥ 0 then
        some (loadRows (row header) lines data)
      else none

/-- What a loader returns: the rows read are stored whether their number is `enough` or not. -/
def loaderResult (data : AppData D) (enough : Nat → Bool) : Option (AppData D × Nat) → AppData D × Bool
  | none => (data, false)
  | some (data, loaded) => (data, enough loaded)

/-- The field of a row in the column of that name, `""` without one. -/
def column (header row : CsvRow) (name : Str) : Str := csvGet row (csvFindHeader header name)

def busStopRow (header : CsvRow) (data : AppData D) (row : CsvRow) : Option (AppData D) :=
  let id := column header row (utf8 "stop_id")
  if strIsBlank id then none
  else
    let stopId := CStr.copy maxIdLen id
    let name := CStr.copy maxNameLen (column header row (utf8 "stop_name"))
    let stop : StopNode D :=
      { stopId := stopId
        stopName :=
          if isPlaceholderStopName name then
            .copy _ (utf8 "정류장명 미상(" ++ stopId.val ++ utf8 ")")
          else name
        lat := parseDoubleOrZero (column header row (utf8 "lat"))
        lng := parseDoubleOrZero (column header row (utf8 "lng"))
        district := .copy _ (column header row (utf8 "district")) }
    if (findStopById data stop.stopId).isNone then some (stopAdd data stop) else none

def loadBusStops (file : Option (List Byte)) (data : AppData D) : AppData D × Bool :=
  loaderResult data (· > 0) <|
    loadCsv file [utf8 "stop_id", utf8 "stop_name"] busStopRow data

def busRouteRow (header : CsvRow) (data : AppData D) (row : CsvRow) : Option (AppData D) :=
  let no := column header row (utf8 "route_no")
  if strIsBlank no then none
  else
    let route : RouteNode :=
      { routeNo := .copy _ no
        routeName := .copy _ (column header row (utf8 "route_name"))
        startStopId := .copy _ (column header row (utf8 "start_stop_id"))
        endStopId := .copy _ (column header row (utf8 "end_stop_id"))
        intervalMin := parseIntOrZero (column header row (utf8 "interval_min"))
        stops := [] }
    if (findRouteByNo data route.routeNo).isNone then some (routeAdd data route) else none

def loadBusRoutes (file : Option (List Byte)) (data : AppData D) : AppData D × Bool :=
  loaderResult data (· > 0) <|
    loadCsv file [utf8 "route_no", utf8 "start_stop_id", utf8 "end_stop_id"] busRouteRow data

/-- `route_stop_add` to the first route of that number. -/
def addToRoute (routeNo : Str) (rs : RouteStopNode) : List RouteNode → List RouteNode
  | [] => []
  | route :: rest =>
    if route.routeNo.val == routeNo then routeStopAdd route rs :: rest
    else route :: addToRoute routeNo rs rest

def routeStopRow (header : CsvRow) (data : AppData D) (row : CsvRow) : Option (AppData D) :=
  let routeNo := column header row (utf8 "route_no")
  let stopId := column header row (utf8 "stop_id")
  if strIsBlank routeNo || strIsBlank stopId then none
  else if (findRouteByNo data routeNo).isNone || (findStopById data stopId).isNone then none
  else
    let rs : RouteStopNode :=
      { routeNo := .copy _ routeNo
        seq := parseIntOrZero (column header row (utf8 "seq"))
        stopId := .copy _ stopId
        direction := .copy _ (column header row (utf8 "direction")) }
    some { data with routes := addToRoute routeNo rs data.routes }

def loadRouteStops (file : Option (List Byte)) (data : AppData D) : AppData D × Bool :=
  loaderResult data (· > 0) <|
    loadCsv file [utf8 "route_no", utf8 "seq", utf8 "stop_id"] routeStopRow data

def subwayStationRow (header : CsvRow) (data : AppData D) (row : CsvRow) : Option (AppData D) :=
  let id := column header row (utf8 "station_id")
  if strIsBlank id then none
  else
    let station : StationNode D :=
      { stationId := .copy _ id
        stationName := .copy _ (column header row (utf8 "station_name"))
        lineNo := .copy _ (column header row (utf8 "line_no"))
        lat := parseDoubleOrZero (column header row (utf8 "lat"))
        lng := parseDoubleOrZero (column header row (utf8 "lng"))
        address := .copy _ (column header row (utf8 "address"))
        transferLines := .copy _ (column header row (utf8 "transfer_lines")) }
    if (findStationById data station.stationId).isNone then some (stationAdd data station) else none

def loadSubwayStations (file : Option (List Byte)) (data : AppData D) : AppData D × Bool :=
  loaderResult data (· > 0) <|
    loadCsv file [utf8 "station_id", utf8 "station_name", utf8 "line_no"] subwayStationRow data

def subwayMinutesFromDistance (distanceKm : D) : Int :=
  if CDouble.le distanceKm zero then 2
  else
    let minutes := CDouble.toInt (CDouble.add (CDouble.mul distanceKm (CDouble.lit 2 0)) (CDouble.lit 5 1))
    if minutes < 2 then 2 else minutes

def subwayDistanceRow (header : CsvRow) (data : AppData D) (row : CsvRow) : Option (AppData D) :=
  let fromId := column header row (utf8 "from_station_id")
  let toId := column header row (utf8 "to_station_id")
  if strIsBlank fromId || strIsBlank toId then none
  else
    match findStationById data fromId, findStationById data toId with
    | some fromStation, some _ =>
      let lineNo := column header row (utf8 "line_no")
      let distanceKm := parseDoubleOrZero (column header row (utf8 "distance_km"))
      let estimatedMinutes := parseIntOrZero (column header row (utf8 "estimated_minutes"))
      let distance : SubwayDistanceNode D :=
        { fromStationId := .copy _ fromId
          toStationId := .copy _ toId
          lineNo := if strIsBlank lineNo then fromStation.lineNo else .copy _ lineNo
          distanceKm := distanceKm
          estimatedMinutes :=
            if estimatedMinutes ≤ 0 then subwayMinutesFromDistance distanceKm else estimatedMinutes }
      some (subwayDistanceAdd data distance)
    | _, _ => none

def loadSubwayDistances (file : Option (List Byte)) (data : AppData D) : AppData D × Bool :=
  loaderResult data (· > 0) <|
    loadCsv file [utf8 "from_station_id", utf8 "to_station_id", utf8 "distance_km"]
      subwayDistanceRow data

def facilityRow (header : CsvRow) (data : AppData D) (row : CsvRow) : Option (AppData D) :=
  let id := column header row (utf8 "facility_id")
  if strIsBlank id then none
  else
    let facility : FacilityNode D :=
      { facilityId := .copy _ id
        name := .copy _ (column header row (utf8 "name"))
        category := .copy _ (column header row (utf8 "category"))
        nearestNodeId := .copy _ (column header row (utf8 "nearest_node_id"))
        address := .copy _ (column header row (utf8 "address"))
        lat := parseDoubleOrZero (column header row (utf8 "lat"))
        lng := parseDoubleOrZero (column header row (utf8 "lng")) }
    some (facilityAdd data facility)

/-- `return loaded >= 0;`: no row at all is as good as many. -/
def loadFacilities (file : Option (List Byte)) (data : AppData D) : AppData D × Bool :=
  loaderResult data (· ≥ 0) <|
    loadCsv file [utf8 "facility_id", utf8 "name", utf8 "category", utf8 "nearest_node_id"]
      facilityRow data

def arrivalRow (header : CsvRow) (data : AppData D) (row : CsvRow) : Option (AppData D) :=
  some <| arrivalAdd data
    { routeNo := .copy _ (column header row (utf8 "route_no"))
      nodeId := .copy _ (column header row (utf8 "node_id"))
      timeSlot := .copy _ (column header row (utf8 "time_slot"))
      arrivalMinutes := parseIntOrZero (column header row (utf8 "arrival_minutes"))
      status := .copy _ (column header row (utf8 "status")) }

def loadArrivals (file : Option (List Byte)) (data : AppData D) : AppData D × Bool :=
  loaderResult data (· ≥ 0) <|
    loadCsv file [utf8 "route_no", utf8 "node_id", utf8 "time_slot", utf8 "arrival_minutes", utf8 "status"]
      arrivalRow data

def crowdingRow (header : CsvRow) (data : AppData D) (row : CsvRow) : Option (AppData D) :=
  some <| crowdingAdd data
    { routeNo := .copy _ (column header row (utf8 "route_no"))
      nodeId := .copy _ (column header row (utf8 "node_id"))
      timeSlot := .copy _ (column header row (utf8 "time_slot"))
      crowdingLevel := .copy _ (column header row (utf8 "crowding_level")) }

def loadCrowdings (file : Option (List Byte)) (data : AppData D) : AppData D × Bool :=
  loaderResult data (· ≥ 0) <|
    loadCsv file [utf8 "route_no", utf8 "node_id", utf8 "time_slot", utf8 "crowding_level"]
      crowdingRow data

/-! ## The graph -/

def hasCoordinates (lat lng : D) : Bool := !CDouble.eq lat zero && !CDouble.eq lng zero

def distanceSqKm (lat1 lng1 lat2 lng2 : D) : D :=
  let latKm := CDouble.mul (CDouble.sub lat1 lat2) (CDouble.lit 111 0)
  let lngKm := CDouble.mul (CDouble.sub lng1 lng2) (CDouble.lit 88 0)
  CDouble.add (CDouble.mul latKm latKm) (CDouble.mul lngKm lngKm)

def transferMinutesFromDistance (distanceSq : D) : Int :=
  if CDouble.le distanceSq (CDouble.lit 9 2) then 3
  else if CDouble.le distanceSq (CDouble.lit 25 2) then 5
  else if CDouble.le distanceSq (CDouble.lit 1 0) then 10
  else if CDouble.le distanceSq (CDouble.lit 225 2) then 15
  else if CDouble.le distanceSq (CDouble.lit 4 0) then 20
  else if CDouble.le distanceSq (CDouble.lit 9 0) then 30
  else if CDouble.le distanceSq (CDouble.lit 25 0) then 50
  else 80

/-- The token and the new `*cursor`, or `none` where the function returns 0. -/
def nextCsvToken (cursor : Str) (outSize : Nat) : Option (Str × Str) :=
  let start := cursor.dropWhile (· == 32)
  if start = [] then none
  else
    let token := strTrim ((start.takeWhile (· != 44)).take (outSize - 1))
    if strIsBlank token then none else some (token, (start.dropWhile (· != 44)).tail)

/-- The tokens of `while (next_csv_token(&cursor, ..))`; every call moves the
cursor, so the length of the text is fuel enough. -/
def csvTokens : (fuel : Nat) → (cursor : Str) → List Str
  | 0, _ => []
  | fuel + 1, cursor =>
    match nextCsvToken cursor maxRouteLen with
    | none => []
    | some (token, cursor) => token :: csvTokens fuel cursor

def commonLineName (a b : Str) (outSize : Nat) : Option Str :=
  ((csvTokens a.length a).find? fun token => (csvTokens b.length b).contains token).map
    (safeStrcpy outSize)

/-- The pair of calls that joins two nodes in both directions. -/
def graphAddBoth (g : TransferGraph D) (a b weightMin : Int) (routeNo : Str) : TransferGraph D :=
  (graphAddEdge true (graphAddEdge true g a b weightMin routeNo).1 b a weightMin routeNo).1

def addStopNode (g : TransferGraph D) (stop : StopNode D) : TransferGraph D :=
  (graphAddNode true g stop.stopId stop.stopName (utf8 "bus_stop") stop.lat stop.lng).1

def addStationNode (g : TransferGraph D) (station : StationNode D) : TransferGraph D :=
  (graphAddNode true g station.stationId station.stationName (utf8 "subway_station")
    station.lat station.lng).1

/-- The loop over the stops of a route, `prev` being the stop before. -/
def linkRouteStops (routeNo : Str) : List RouteStopNode → Option RouteStopNode → TransferGraph D →
    TransferGraph D
  | [], _, g => g
  | cur :: rest, none, g => linkRouteStops routeNo rest (some cur) g
  | cur :: rest, some prev, g =>
    linkRouteStops routeNo rest (some cur)
      (graphAddBoth g (graphFindNode g prev.stopId) (graphFindNode g cur.stopId) 5 routeNo)

def linkRoute (g : TransferGraph D) (route : RouteNode) : TransferGraph D :=
  linkRouteStops route.routeNo route.stops none g

/-- One row of the subway distances, and the number of rows used so far. -/
def linkDistance (st : TransferGraph D × Nat) (distance : SubwayDistanceNode D) :
    TransferGraph D × Nat :=
  let g := st.1
  let a := graphFindNode g distance.fromStationId
  let b := graphFindNode g distance.toStationId
  let minutes :=
    if distance.estimatedMinutes > 0 then distance.estimatedMinutes
    else subwayMinutesFromDistance distance.distanceKm
  let lineNo := if strIsBlank distance.lineNo then utf8 "SUBWAY" else distance.lineNo
  if a < 0 ∨ b < 0 then st else (graphAddBoth g a b minutes lineNo, st.2 + 1)

/-- The inner loop of the fallback: `station` and the stations after it. -/
def linkSharedLine (station : StationNode D) (g : TransferGraph D) (other : StationNode D) :
    TransferGraph D :=
  match commonLineName station.lineNo other.lineNo maxRouteLen with
  | none => g
  | some commonLine =>
    graphAddBoth g (graphFindNode g station.stationId) (graphFindNode g other.stationId) 8 commonLine

def linkSharedLines : List (StationNode D) → TransferGraph D → TransferGraph D
  | [], g => g
  | station :: rest, g => linkSharedLines rest (rest.foldl (linkSharedLine station) g)

/-- The variables of the loop over the stations for one stop. -/
structure StopLinks (D : Type) where
  graph : TransferGraph D
  nearestStation : Option (StationNode D)
  nearestDistance : D
  linkedNearStation : Bool

def linkNearStation (stop : StopNode D) (st : StopLinks D) (station : StationNode D) : StopLinks D :=
  if !hasCoordinates station.lat station.lng then st
  else
    let distance := distanceSqKm stop.lat stop.lng station.lat station.lng
    let st :=
      if CDouble.lt distance st.nearestDistance then
        { st with nearestDistance := distance, nearestStation := some station }
      else st
    if CDouble.le distance (CDouble.lit 9 0) then
      let a := graphFindNode st.graph stop.stopId
      let b := graphFindNode st.graph station.stationId
      { st with
        graph := graphAddBoth st.graph a b (transferMinutesFromDistance distance) (utf8 "TRANSFER")
        linkedNearStation := true }
    else st

def linkStop (stations : List (StationNode D)) (g : TransferGraph D) (stop : StopNode D) :
    TransferGraph D :=
  if !hasCoordinates stop.lat stop.lng then g
  else
    let st := stations.foldl (linkNearStation stop)
      { graph := g, nearestStation := none, nearestDistance := CDouble.lit 999999 0,
        linkedNearStation := false }
    match st.linkedNearStation, st.nearestStation with
    | false, some station =>
      graphAddBoth st.graph (graphFindNode st.graph stop.stopId)
        (graphFindNode st.graph station.stationId)
        (transferMinutesFromDistance st.nearestDistance) (utf8 "TRANSFER")
    | _, _ => st.graph

/-- The graph built, and whether the function returned 1. -/
def dataLoaderBuildGraph (data : AppData D) : AppData D × Bool :=
  let g := data.stops.foldl addStopNode data.graph
  let g := data.stations.foldl addStationNode g
  let g := data.routes.foldl linkRoute g
  let (g, loadedSubwayEdges) := data.subwayDistances.foldl linkDistance (g, 0)
  let g := if loadedSubwayEdges = 0 then linkSharedLines data.stations g else g
  let g := data.stops.foldl (linkStop data.stations) g
  ({ data with graph := g }, g.nodeCount > 0)

/-- The store after loading, and whether every step returned 1. -/
def dataLoaderLoad (files : CsvFiles) : AppData D × Bool :=
  let (data, ok1) := loadBusStops files.busStops appDataInit
  let (data, ok2) := loadBusRoutes files.busRoutes data
  let (data, ok3) := loadRouteStops files.routeStops data
  let (data, ok4) := loadSubwayStations files.subwayStations data
  let (data, ok5) := loadSubwayDistances files.subwayDistances data
  let (data, ok6) := loadFacilities files.facilities data
  let (data, ok7) := loadArrivals files.arrivalTest data
  let (data, ok8) := loadCrowdings files.crowdingTest data
  let (data, ok9) := dataLoaderBuildGraph data
  (data, ok1 && ok2 && ok3 && ok4 && ok5 && ok6 && ok7 && ok8 && ok9)

end Transit
