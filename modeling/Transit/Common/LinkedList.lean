import Transit.Common.Graph

/-!
# The store of loaded records (`common/linked_list.c`)

Allocation succeeds here: the loader does not look at the result of an `_add`.
-/

namespace Transit

variable {D : Type}

def appDataInit : AppData D :=
  { stops := [], routes := [], stations := [], subwayDistances := [], facilities := [],
    arrivals := [], crowdings := [], graph := graphInit }

def stopAdd (data : AppData D) (value : StopNode D) : AppData D :=
  { data with stops := value :: data.stops }

def routeAdd (data : AppData D) (value : RouteNode) : AppData D :=
  { data with routes := { value with stops := [] } :: data.routes }

/-- Where `route_stop_add` puts a stop: behind all stops whose `seq` is not larger. -/
def insertRouteStop (node : RouteStopNode) : List RouteStopNode → List RouteStopNode
  | [] => [node]
  | cur :: rest => if cur.seq ≤ node.seq then cur :: insertRouteStop node rest else node :: cur :: rest

def routeStopAdd (route : RouteNode) (value : RouteStopNode) : RouteNode :=
  { route with stops := insertRouteStop value route.stops }

def stationAdd (data : AppData D) (value : StationNode D) : AppData D :=
  { data with stations := value :: data.stations }

def subwayDistanceAdd (data : AppData D) (value : SubwayDistanceNode D) : AppData D :=
  { data with subwayDistances := value :: data.subwayDistances }

def facilityAdd (data : AppData D) (value : FacilityNode D) : AppData D :=
  { data with facilities := value :: data.facilities }

def arrivalAdd (data : AppData D) (value : ArrivalNode) : AppData D :=
  { data with arrivals := value :: data.arrivals }

def crowdingAdd (data : AppData D) (value : CrowdingNode) : AppData D :=
  { data with crowdings := value :: data.crowdings }

def findStopById (data : AppData D) (stopId : Str) : Option (StopNode D) :=
  data.stops.find? (·.stopId.val == stopId)

def findRouteByNo (data : AppData D) (routeNo : Str) : Option RouteNode :=
  data.routes.find? (·.routeNo.val == routeNo)

def findStationById (data : AppData D) (stationId : Str) : Option (StationNode D) :=
  data.stations.find? (·.stationId.val == stationId)

def findNodeNameById (data : AppData D) (nodeId : Str) : Str :=
  match findStopById data nodeId with
  | some stop => stop.stopName
  | none =>
    match findStationById data nodeId with
    | some station => station.stationName
    | none => nodeId

def findArrival (data : AppData D) (nodeId routeNo timeSlot : Str) : Option ArrivalNode :=
  data.arrivals.find? fun cur =>
    cur.nodeId.val == nodeId && cur.routeNo.val == routeNo && cur.timeSlot.val == timeSlot

def findCrowding (data : AppData D) (nodeId routeNo timeSlot : Str) : Option CrowdingNode :=
  data.crowdings.find? fun cur =>
    cur.nodeId.val == nodeId && cur.routeNo.val == routeNo && cur.timeSlot.val == timeSlot

def routeHasStop (route : RouteNode) (stopId : Str) : Bool :=
  route.stops.any (·.stopId.val == stopId)

end Transit
