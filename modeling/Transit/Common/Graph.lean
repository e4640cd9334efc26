import Transit.Common.StringUtils
import Transit.Common.Types

/-!
# The transfer graph and its path search (`common/graph.c`)

`mem` says whether the allocation a call asks for succeeds. Indices that may
be `-1` are `Int`; the search's arrays are functions on indices, `prev[i] = -1`
is `none`. `int` additions wrap around (`toInt32`): in C they overflow.
-/

namespace Transit

variable {D : Type}

def graphInit : TransferGraph D := ⟨[], 0⟩

/-- The doubling loop of `graph_reserve`. -/
def growCapacity : Nat → Nat → Nat → Nat
  | 0, capacity, _ => capacity
  | fuel + 1, capacity, needed =>
    if capacity < needed then growCapacity fuel (capacity * 2) needed else capacity

def graphReserve (mem : Bool) (g : TransferGraph D) (needed : Nat) : Option (TransferGraph D) :=
  if g.capacity ≥ needed then some g
  else if mem then
    some { g with capacity := growCapacity needed (if g.capacity = 0 then 16 else g.capacity * 2) needed }
  else none

def graphFindNode (g : TransferGraph D) (nodeId : Str) : Int :=
  match g.nodes.findIdx? (·.nodeId.val == nodeId) with
  | some i => i
  | none => -1

/-- The graph after the call, and the index returned. -/
def graphAddNode (mem : Bool) (g : TransferGraph D) (nodeId nodeName nodeType : Str) (lat lng : D) :
    TransferGraph D × Int :=
  let existing := graphFindNode g nodeId
  if existing ≥ 0 then (g, existing)
  else
    match graphReserve mem g (g.nodeCount + 1) with
    | none => (g, -1)
    | some g =>
      let node : GraphNode D :=
        { nodeId := .copy _ nodeId, nodeName := .copy _ nodeName, nodeType := .copy _ nodeType,
          lat := lat, lng := lng, edges := [] }
      ({ g with nodes := g.nodes ++ [node] }, g.nodeCount)

/-- The edges of the node at an index, if there is one. -/
def TransferGraph.edgesAt (g : TransferGraph D) (i : Nat) : List GraphEdge :=
  match g.nodes[i]? with
  | some node => node.edges
  | none => []

/-- `graph_get_edge`, `graph_find_edge`: the first edge to `toIndex`. -/
def graphFindEdge (g : TransferGraph D) (fromIndex toIndex : Nat) : Option GraphEdge :=
  (g.edgesAt fromIndex).find? (·.toIndex == toIndex)

/-- A shorter time replaces that of the first edge to `toIndex`. -/
def improveEdge (toIndex : Nat) (weightMin : Int) (routeNo : Str) : List GraphEdge → List GraphEdge
  | [] => []
  | e :: es =>
    if e.toIndex = toIndex then
      (if weightMin > 0 ∧ weightMin < e.weightMin then
        { e with weightMin := weightMin, routeNo := .copy _ routeNo } else e) :: es
    else e :: improveEdge toIndex weightMin routeNo es

/-- What an accepted `graph_add_edge` does to the edges of its node. -/
def addEdge (toIndex : Nat) (weightMin : Int) (routeNo : Str) (es : List GraphEdge) :
    List GraphEdge :=
  if es.any (·.toIndex == toIndex) then improveEdge toIndex weightMin routeNo es
  else
    { toIndex := toIndex, weightMin := if weightMin > 0 then weightMin else 1,
      routeNo := .copy _ routeNo } :: es

/-- Changing the edges of the node at an index. -/
def TransferGraph.modifyEdges (g : TransferGraph D) (i : Nat)
    (f : List GraphEdge → List GraphEdge) : TransferGraph D :=
  { g with nodes := g.nodes.modify i fun node => { node with edges := f node.edges } }

/-- The graph after the call, and whether it returned 1. -/
def graphAddEdge (mem : Bool) (g : TransferGraph D) (fromIndex toIndex weightMin : Int)
    (routeNo : Str) : TransferGraph D × Bool :=
  if fromIndex < 0 ∨ toIndex < 0 ∨ fromIndex ≥ g.nodeCount ∨ toIndex ≥ g.nodeCount then (g, false)
  else if fromIndex = toIndex then (g, true)
  else if !mem && (graphFindEdge g fromIndex.toNat toIndex.toNat).isNone then (g, false)
  else (g.modifyEdges fromIndex.toNat (addEdge toIndex.toNat weightMin routeNo), true)

/-! ## The path search -/

/-- `INT_MAX / 4`, the distance of a node not reached. -/
def inf : Int := intMax / 4

/-- The arrays of the search. -/
structure Search where
  prev : Nat → Option Nat
  dist : Nat → Int
  visited : Nat → Bool

def searchInit (fromIndex : Nat) : Search where
  prev := Function.update (fun _ => none) fromIndex (some fromIndex)
  dist := Function.update (fun _ => inf) fromIndex 0
  visited := fun _ => false

/-- One step of the loop that looks for the nearest node not visited. -/
def nearer (s : Search) (best : Int × Option Nat) (i : Nat) : Int × Option Nat :=
  if !s.visited i && s.dist i < best.1 then (s.dist i, some i) else best

/-- The first nearest node not visited, among those reached. -/
def nearest (nodeCount : Nat) (s : Search) : Option Nat :=
  ((List.range nodeCount).foldl (nearer s) (inf, none)).2

/-- Relaxing one edge out of `cur`. -/
def relax (cur : Nat) (s : Search) (edge : GraphEdge) : Search :=
  let next := edge.toIndex
  let nextDist := toInt32 (s.dist cur + edge.weightMin)
  if !s.visited next && nextDist < s.dist next then
    { s with dist := Function.update s.dist next nextDist,
             prev := Function.update s.prev next (some cur) }
  else s

def visit (cur : Nat) (s : Search) : Search :=
  { s with visited := Function.update s.visited cur true }

/-- The search loop: the arrays at its end and `found`. Every round visits a
node, so `node_count + 1` rounds are enough. -/
def searchLoop (g : TransferGraph D) (toIndex : Nat) : Nat → Search → Search × Bool
  | 0, s => (s, false)
  | fuel + 1, s =>
    match nearest g.nodeCount s with
    | none => (s, false)
    | some cur =>
      let s := visit cur s
      if cur = toIndex then (s, true)
      else searchLoop g toIndex fuel ((g.edgesAt cur).foldl (relax cur) s)

/-- The loop that fills `rev`, from `cur` back to `fromIndex`, in at most
`room` entries. -/
def backtrack (prev : Nat → Option Nat) (fromIndex : Nat) : Nat → Nat → List Nat
  | 0, _ => []
  | room + 1, cur =>
    cur ::
      if cur = fromIndex then []
      else
        match prev cur with
        | none => []
        | some p => backtrack prev fromIndex room p

/-- The time and route stored for the segment from `u` to `v`. -/
def segment (g : TransferGraph D) (u v : Nat) : Int × CStr maxRouteLen :=
  match graphFindEdge g u v with
  | some edge => (edge.weightMin, edge.routeNo)
  | none => (0, .copy _ [])

def graphFindPath (mem : Bool) (g : TransferGraph D) (fromIndex toIndex : Int) : Option GraphPath :=
  if fromIndex < 0 ∨ toIndex < 0 ∨ fromIndex ≥ g.nodeCount ∨ toIndex ≥ g.nodeCount then none
  else if !mem then none
  else
    let (s, found) := searchLoop g toIndex.toNat (g.nodeCount + 1) (searchInit fromIndex.toNat)
    if found then
      let rev := backtrack s.prev fromIndex.toNat maxGraphPath toIndex.toNat
      if rev.getLast? = some fromIndex.toNat then
        let indices := rev.reverse
        let segments := List.zipWith (segment g) indices indices.tail
        some { indices := indices, segmentRoutes := segments.map (·.2),
               segmentMinutes := segments.map (·.1), totalMinutes := s.dist toIndex.toNat }
      else none
    else none

end Transit
