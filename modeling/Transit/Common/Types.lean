import Transit.Common.Double

/-!
# The records of the program (`common/types.h`)

Linked lists are lists, in the order of their `next` pointers. A `char[n]`
field is a `CStr n`, so every record is within its arrays by construction.
`int` fields are `Int`.
-/

namespace Transit

abbrev maxIdLen : Nat := 32
abbrev maxNameLen : Nat := 100
abbrev maxCategoryLen : Nat := 50
abbrev maxAddressLen : Nat := 200
abbrev maxRouteLen : Nat := 128
abbrev maxStatusLen : Nat := 50
abbrev maxTimeSlotLen : Nat := 32
abbrev maxNodeTypeLen : Nat := 16
abbrev maxGraphPath : Nat := 256

structure StopNode (D : Type) where
  stopId : CStr maxIdLen
  stopName : CStr maxNameLen
  lat : D
  lng : D
  district : CStr maxCategoryLen

structure RouteStopNode where
  routeNo : CStr maxRouteLen
  seq : Int
  stopId : CStr maxIdLen
  direction : CStr maxCategoryLen

structure RouteNode where
  routeNo : CStr maxRouteLen
  routeName : CStr maxNameLen
  startStopId : CStr maxIdLen
  endStopId : CStr maxIdLen
  intervalMin : Int
  stops : List RouteStopNode

structure StationNode (D : Type) where
  stationId : CStr maxIdLen
  stationName : CStr maxNameLen
  lineNo : CStr maxRouteLen
  lat : D
  lng : D
  address : CStr maxAddressLen
  transferLines : CStr maxNameLen

structure SubwayDistanceNode (D : Type) where
  fromStationId : CStr maxIdLen
  toStationId : CStr maxIdLen
  lineNo : CStr maxRouteLen
  distanceKm : D
  estimatedMinutes : Int

structure FacilityNode (D : Type) where
  facilityId : CStr maxIdLen
  name : CStr maxNameLen
  category : CStr maxCategoryLen
  nearestNodeId : CStr maxIdLen
  address : CStr maxAddressLen
  lat : D
  lng : D

structure ArrivalNode where
  routeNo : CStr maxRouteLen
  nodeId : CStr maxIdLen
  timeSlot : CStr maxTimeSlotLen
  arrivalMinutes : Int
  status : CStr maxStatusLen

structure CrowdingNode where
  routeNo : CStr maxRouteLen
  nodeId : CStr maxIdLen
  timeSlot : CStr maxTimeSlotLen
  crowdingLevel : CStr maxStatusLen

structure GraphEdge where
  toIndex : Nat
  weightMin : Int
  routeNo : CStr maxRouteLen

structure GraphNode (D : Type) where
  nodeId : CStr maxIdLen
  nodeName : CStr maxNameLen
  nodeType : CStr maxNodeTypeLen
  lat : D
  lng : D
  edges : List GraphEdge

/-- The first `node_count` nodes of the array, and the room it has. -/
structure TransferGraph (D : Type) where
  nodes : List (GraphNode D)
  capacity : Nat

def TransferGraph.nodeCount {D : Type} (g : TransferGraph D) : Nat := g.nodes.length

structure AppData (D : Type) where
  stops : List (StopNode D)
  routes : List RouteNode
  stations : List (StationNode D)
  subwayDistances : List (SubwayDistanceNode D)
  facilities : List (FacilityNode D)
  arrivals : List ArrivalNode
  crowdings : List CrowdingNode
  graph : TransferGraph D

/-- The nodes of a path, and the route and the minutes of each segment
between two of them. -/
structure GraphPath where
  indices : List Nat
  segmentRoutes : List (CStr maxRouteLen)
  segmentMinutes : List Int
  totalMinutes : Int

def GraphPath.count (path : GraphPath) : Nat := path.indices.length

end Transit
