import Transit.Common.LinkedList
import Transit.Framework.Linked

/-!
# The store in memory (`common/linked_list.c`, `common/graph.c`)

`AppData` keeps its records in lists. Here are the same functions over the blocks
that `calloc` and `realloc` hand out and the pointers between them: `none` is an
access to a block that is not allocated, a block freed twice, an access outside
of the node array, or a loop that does not end.
-/

namespace Transit

open Framework

variable {D : Type}

/-- What a block holds. The lists of a route and of a node hang on pointers: the
list fields of these records are not used. -/
inductive Block (D : Type) where
  | stop (value : StopNode D) (next : Ptr)
  | routeStop (value : RouteStopNode) (next : Ptr)
  | route (value : RouteNode) (stops next : Ptr)
  | station (value : StationNode D) (next : Ptr)
  | subwayDistance (value : SubwayDistanceNode D) (next : Ptr)
  | facility (value : FacilityNode D) (next : Ptr)
  | arrival (value : ArrivalNode) (next : Ptr)
  | crowding (value : CrowdingNode) (next : Ptr)
  | edge (value : GraphEdge) (next : Ptr)
  /-- The node array: the nodes in it, and the number of zeroed elements behind them. -/
  | nodes (cells : List (GraphNode D × Ptr)) (zeroed : Nat)

def stopKind : NodeKind (Block D) (StopNode D) :=
  ⟨.stop, fun | .stop value next => some (value, next) | _ => none, fun _ _ => rfl⟩

def routeStopKind : NodeKind (Block D) RouteStopNode :=
  ⟨.routeStop, fun | .routeStop value next => some (value, next) | _ => none, fun _ _ => rfl⟩

def routeKind : NodeKind (Block D) (RouteNode × Ptr) :=
  ⟨fun value next => .route value.1 value.2 next,
    fun | .route value stops next => some ((value, stops), next) | _ => none, fun _ _ => rfl⟩

def stationKind : NodeKind (Block D) (StationNode D) :=
  ⟨.station, fun | .station value next => some (value, next) | _ => none, fun _ _ => rfl⟩

def subwayDistanceKind : NodeKind (Block D) (SubwayDistanceNode D) :=
  ⟨.subwayDistance, fun | .subwayDistance value next => some (value, next) | _ => none, fun _ _ => rfl⟩

def facilityKind : NodeKind (Block D) (FacilityNode D) :=
  ⟨.facility, fun | .facility value next => some (value, next) | _ => none, fun _ _ => rfl⟩

def arrivalKind : NodeKind (Block D) ArrivalNode :=
  ⟨.arrival, fun | .arrival value next => some (value, next) | _ => none, fun _ _ => rfl⟩

def crowdingKind : NodeKind (Block D) CrowdingNode :=
  ⟨.crowding, fun | .crowding value next => some (value, next) | _ => none, fun _ _ => rfl⟩

def edgeKind : NodeKind (Block D) GraphEdge :=
  ⟨.edge, fun | .edge value next => some (value, next) | _ => none, fun _ _ => rfl⟩

/-- `AppData`, and the memory its pointers point into. -/
structure AppDataMem (D : Type) where
  mem : Memory (Block D)
  stops : Ptr
  routes : Ptr
  stations : Ptr
  subwayDistances : Ptr
  facilities : Ptr
  arrivals : Ptr
  crowdings : Ptr
  nodes : Ptr
  nodeCount : Nat
  capacity : Nat

def appDataInitMem (mem : Memory (Block D)) : AppDataMem D :=
  ⟨mem, none, none, none, none, none, none, none, none, 0, 0⟩

/-! ## The records -/

/-- A list that hangs on `AppData`: how its nodes are laid out, and its first pointer. -/
structure RootList (D α : Type) where
  kind : NodeKind (Block D) α
  root : AppDataMem D → Ptr
  withRoot : AppDataMem D → Memory (Block D) → Ptr → AppDataMem D

abbrev stopList : RootList D (StopNode D) :=
  ⟨stopKind, (·.stops), fun s mem stops => { s with mem := mem, stops := stops }⟩

abbrev stationList : RootList D (StationNode D) :=
  ⟨stationKind, (·.stations), fun s mem stations => { s with mem := mem, stations := stations }⟩

abbrev subwayDistanceList : RootList D (SubwayDistanceNode D) :=
  ⟨subwayDistanceKind, (·.subwayDistances), fun s mem distances => { s with mem := mem, subwayDistances := distances }⟩

abbrev facilityList : RootList D (FacilityNode D) :=
  ⟨facilityKind, (·.facilities), fun s mem facilities => { s with mem := mem, facilities := facilities }⟩

abbrev arrivalList : RootList D ArrivalNode :=
  ⟨arrivalKind, (·.arrivals), fun s mem arrivals => { s with mem := mem, arrivals := arrivals }⟩

abbrev crowdingList : RootList D CrowdingNode :=
  ⟨crowdingKind, (·.crowdings), fun s mem crowdings => { s with mem := mem, crowdings := crowdings }⟩

section Records

variable (alloc : Allocator (Block D)) (s : AppDataMem D)

/-- A new node is put in front of a list. -/
def recordAddMem {α : Type} (list : RootList D α) (value : α) : AppDataMem D :=
  let (mem, root) := list.kind.push alloc s.mem (list.root s) value
  list.withRoot s mem root

def stopAddMem (value : StopNode D) : AppDataMem D := recordAddMem alloc s stopList value

def routeAddMem (value : RouteNode) : AppDataMem D :=
  let (mem, routes) := routeKind.push alloc s.mem s.routes ({ value with stops := [] }, none)
  { s with mem := mem, routes := routes }

def stationAddMem (value : StationNode D) : AppDataMem D := recordAddMem alloc s stationList value

def subwayDistanceAddMem (value : SubwayDistanceNode D) : AppDataMem D := recordAddMem alloc s subwayDistanceList value

def facilityAddMem (value : FacilityNode D) : AppDataMem D := recordAddMem alloc s facilityList value

def arrivalAddMem (value : ArrivalNode) : AppDataMem D := recordAddMem alloc s arrivalList value

def crowdingAddMem (value : CrowdingNode) : AppDataMem D := recordAddMem alloc s crowdingList value

/-- The first node of a list with `p`. -/
def findRecordMem {α : Type} (list : RootList D α) (p : α → Bool) : Option Ptr :=
  list.kind.findNode p s.mem.size s.mem (list.root s)

/-- The pointer returned by `find_stop_by_id`. -/
def findStopByIdMem (stopId : Str) : Option Ptr := findRecordMem s stopList (·.stopId.val == stopId)

/-- The pointer returned by `find_station_by_id`. -/
def findStationByIdMem (stationId : Str) : Option Ptr := findRecordMem s stationList (·.stationId.val == stationId)

/-- The pointer returned by `find_route_by_no`. -/
def findRouteByNoMem (routeNo : Str) : Option Ptr :=
  routeKind.findNode (fun cur => cur.1.routeNo.val == routeNo) s.mem.size s.mem s.routes

/-- `route->stops` is written back also where its first node stays the same. -/
def routeStopAddMem (route : Ptr) (value : RouteStopNode) : Option (AppDataMem D) :=
  if route = none then some s
  else
    (routeKind.readNode s.mem route).bind fun ((node, stops), next) =>
    (routeStopKind.insert alloc (fun cur => decide (cur.seq ≤ value.seq)) s.mem.size s.mem stops value).bind
      fun (mem, stops) =>
    (mem.store route (routeKind.block (node, stops) next)).map fun mem => { s with mem := mem }

end Records

/-! ## The graph -/

section Graph

variable (alloc : Allocator (Block D)) (s : AppDataMem D)

/-- The node array, and the number of its zeroed elements. -/
def readCells (mem : Memory (Block D)) (nodes : Ptr) : Option (List (GraphNode D × Ptr) × Nat) :=
  (mem.load nodes).bind fun | .nodes cells zeroed => some (cells, zeroed) | _ => none

/-- Writing `graph->nodes[i]`: one of the nodes, or the first element behind them. -/
def writeCell (i : Nat) (node : GraphNode D × Ptr) : Option (AppDataMem D) :=
  (readCells s.mem s.nodes).bind fun (cells, zeroed) =>
  let block :=
    if i < cells.length then some (Block.nodes (cells.set i node) zeroed)
    else if i = cells.length ∧ 0 < zeroed then some (.nodes (cells ++ [node]) (zeroed - 1))
    else none
  block.bind fun block => (s.mem.store s.nodes block).map fun mem => { s with mem := mem }

/-- The elements below `node_count`. Without nodes the array is not looked at. -/
def usedCells : Option (List (GraphNode D × Ptr)) :=
  if s.nodeCount = 0 then some []
  else
    (readCells s.mem s.nodes).bind fun (cells, _) =>
    if s.nodeCount ≤ cells.length then some (cells.take s.nodeCount) else none

def graphFindNodeMem (nodeId : Str) : Option Int :=
  (usedCells s).map fun cells =>
  match cells.findIdx? (·.1.nodeId.val == nodeId) with
  | some i => i
  | none => -1

/-- `realloc` keeps the elements there are, `memset` clears those behind them. -/
def graphReserveMem (needed : Nat) : Option (AppDataMem D × Bool) :=
  if s.capacity ≥ needed then some (s, true)
  else
    let newCapacity := growCapacity needed (if s.capacity = 0 then 16 else s.capacity * 2) needed
    (if s.nodes = none then some ([], 0) else readCells s.mem s.nodes).bind fun (cells, _) =>
    (s.mem.realloc alloc s.nodes (.nodes cells (newCapacity - cells.length))).map fun (nodes, mem) =>
    if nodes = none then ({ s with mem := mem }, false)
    else ({ s with mem := mem, nodes := nodes, capacity := newCapacity }, true)

def graphAddNodeMem (nodeId nodeName nodeType : Str) (lat lng : D) : Option (AppDataMem D × Int) :=
  (graphFindNodeMem s nodeId).bind fun existing =>
  if existing ≥ 0 then some (s, existing)
  else
    (graphReserveMem alloc s (s.nodeCount + 1)).bind fun (s, ok) =>
    if !ok then some (s, -1)
    else
      let node : GraphNode D :=
        { nodeId := .copy _ nodeId, nodeName := .copy _ nodeName, nodeType := .copy _ nodeType,
          lat := lat, lng := lng, edges := [] }
      (writeCell s s.nodeCount (node, none)).map fun s => ({ s with nodeCount := s.nodeCount + 1 }, s.nodeCount)

/-- What `graph_add_edge` does with two different nodes. -/
def putEdge (fromIndex toIndex : Nat) (weightMin : Int) (routeNo : Str) : Option (AppDataMem D × Bool) :=
  (readCells s.mem s.nodes).bind fun (cells, _) =>
  (cells[fromIndex]?).bind fun (node, edges) =>
  (edgeKind.findNode (·.toIndex == toIndex) s.mem.size s.mem edges).bind fun existing =>
  if existing = none then
    let edge : GraphEdge :=
      { toIndex := toIndex, weightMin := if weightMin > 0 then weightMin else 1, routeNo := .copy _ routeNo }
    let (p, mem) := s.mem.malloc alloc (edgeKind.block edge edges)
    if p = none then some ({ s with mem := mem }, false)
    else (writeCell { s with mem := mem } fromIndex (node, p)).map fun s => (s, true)
  else
    (edgeKind.readNode s.mem existing).bind fun (edge, next) =>
    if weightMin > 0 ∧ weightMin < edge.weightMin then
      (s.mem.store existing (edgeKind.block { edge with weightMin := weightMin, routeNo := .copy _ routeNo } next)).map
        fun mem => ({ s with mem := mem }, true)
    else some (s, true)

def graphAddEdgeMem (fromIndex toIndex weightMin : Int) (routeNo : Str) : Option (AppDataMem D × Bool) :=
  if fromIndex < 0 ∨ toIndex < 0 ∨ fromIndex ≥ s.nodeCount ∨ toIndex ≥ s.nodeCount then some (s, false)
  else if fromIndex = toIndex then some (s, true)
  else putEdge alloc s fromIndex.toNat toIndex.toNat weightMin routeNo

end Graph

/-! ## Freeing -/

section Free

variable (s : AppDataMem D)

/-- A list whose records own no other blocks. -/
def freeRecords {α : Type} (kind : NodeKind (Block D) α) (mem : Memory (Block D)) (cur : Ptr) :
    Option (Memory (Block D)) :=
  kind.freeNodes (fun mem _ => some mem) mem.size mem cur

def freeRouteStops (mem : Memory (Block D)) (node : Ptr) : Option (Memory (Block D)) :=
  freeRecords routeStopKind mem node

/-- The edges of `graph->nodes[i]`. -/
def freeEdges (nodes : Ptr) (mem : Memory (Block D)) (i : Nat) : Option (Memory (Block D)) :=
  (readCells mem nodes).bind fun (cells, _) => (cells[i]?).bind fun (_, edges) => freeRecords edgeKind mem edges

def graphFreeMem : Option (AppDataMem D) :=
  ((List.range s.nodeCount).foldlM (freeEdges s.nodes) s.mem).bind fun mem =>
  (mem.free s.nodes).map fun mem => { s with mem := mem, nodes := none, nodeCount := 0, capacity := 0 }

/-- The lists, one after the other, and the graph. -/
def appDataFreeMem : Option (AppDataMem D) :=
  (freeRecords stopKind s.mem s.stops).bind fun mem =>
  (routeKind.freeNodes (fun mem route => freeRouteStops mem route.2) mem.size mem s.routes).bind fun mem =>
  (freeRecords stationKind mem s.stations).bind fun mem =>
  (freeRecords subwayDistanceKind mem s.subwayDistances).bind fun mem =>
  (freeRecords facilityKind mem s.facilities).bind fun mem =>
  (freeRecords arrivalKind mem s.arrivals).bind fun mem =>
  (freeRecords crowdingKind mem s.crowdings).bind fun mem =>
  graphFreeMem { s with mem := mem, stops := none, routes := none, stations := none, subwayDistances := none,
                        facilities := none, arrivals := none, crowdings := none }

end Free

/-! ## What the pointers lead to -/

/-- The routes with their stops. -/
def readRoutes (mem : Memory (Block D)) (routes : Ptr) : Option (List RouteNode) :=
  (routeKind.readNodes mem.size mem routes).bind fun nodes =>
  nodes.mapM fun node =>
  (routeStopKind.readNodes mem.size mem node.2).map fun stops => ({ node.1 with stops := stops } : RouteNode)

/-- The nodes with their edges. -/
def readGraph (s : AppDataMem D) : Option (TransferGraph D) :=
  (usedCells s).bind fun cells =>
  (cells.mapM fun cell =>
    (edgeKind.readNodes s.mem.size s.mem cell.2).map fun edges => ({ cell.1 with edges := edges } : GraphNode D)).map
  fun nodes => ⟨nodes, s.capacity⟩

/-- All records, read along the pointers. -/
def readAppData (s : AppDataMem D) : Option (AppData D) :=
  (stopKind.readNodes s.mem.size s.mem s.stops).bind fun stops =>
  (readRoutes s.mem s.routes).bind fun routes =>
  (stationKind.readNodes s.mem.size s.mem s.stations).bind fun stations =>
  (subwayDistanceKind.readNodes s.mem.size s.mem s.subwayDistances).bind fun subwayDistances =>
  (facilityKind.readNodes s.mem.size s.mem s.facilities).bind fun facilities =>
  (arrivalKind.readNodes s.mem.size s.mem s.arrivals).bind fun arrivals =>
  (crowdingKind.readNodes s.mem.size s.mem s.crowdings).bind fun crowdings =>
  (readGraph s).map fun graph =>
  { stops := stops, routes := routes, stations := stations, subwayDistances := subwayDistances,
    facilities := facilities, arrivals := arrivals, crowdings := crowdings, graph := graph }

end Transit
