import Transit.Common.StoreMemory
import Transit.Proof.GraphInvariant
import Transit.Server.DataLoader

/-!
# The blocks of the store

A `Layout` says where the records of a store are. `Laid` connects it to the memory:
the store owns the blocks of its records and no others, and its pointers lead to
them. Every call keeps this (`KeepsLaid`) and changes the records as the same call on
lists does, or leaves them as they are where an allocation fails.

* `Laid.recordAdd`, for each `RecordList`; `Laid.routeAdd`, `Laid.routeStopAdd`,
  `Laid.graphAddNode`, `Laid.graphAddEdge`: what each call does.
-/

namespace Transit

open Framework

variable {D : Type}

/-! ## Layouts -/

/-- The records, each with the address of its block. -/
structure Layout (D : Type) where
  stops : List (Addr × StopNode D)
  routes : List (Addr × RouteNode × List (Addr × RouteStopNode))
  stations : List (Addr × StationNode D)
  subwayDistances : List (Addr × SubwayDistanceNode D)
  facilities : List (Addr × FacilityNode D)
  arrivals : List (Addr × ArrivalNode)
  crowdings : List (Addr × CrowdingNode)
  array : Ptr
  nodes : List (GraphNode D × List (Addr × GraphEdge))
  capacity : Nat

/-- The contents of a route's block, but for the pointer to the next. -/
def routeValue (r : Addr × RouteNode × List (Addr × RouteStopNode)) : RouteNode × Ptr := (r.2.1, start r.2.2 none)

def stopBlocks (r : Addr × RouteNode × List (Addr × RouteStopNode)) : Blocks (Block D) :=
  routeStopKind.segment r.2.2 none

/-- An element of the node array. -/
def nodeValue (n : GraphNode D × List (Addr × GraphEdge)) : GraphNode D × Ptr := (n.1, start n.2 none)

def edgeBlocks (n : GraphNode D × List (Addr × GraphEdge)) : Blocks (Block D) := edgeKind.segment n.2 none

def routeRecord (r : Addr × RouteNode × List (Addr × RouteStopNode)) : RouteNode :=
  { r.2.1 with stops := r.2.2.map Prod.snd }

def nodeRecord (n : GraphNode D × List (Addr × GraphEdge)) : GraphNode D := { n.1 with edges := n.2.map Prod.snd }

def routeBlocks (routes : List (Addr × RouteNode × List (Addr × RouteStopNode))) : Blocks (Block D) :=
  routeKind.segment (routes.map fun r => (r.1, routeValue r)) none + (routes.map stopBlocks).sum

def arrayBlock (nodes : List (GraphNode D × List (Addr × GraphEdge))) (capacity : Nat) (array : Ptr) :
    Blocks (Block D) :=
  match array with
  | none => 0
  | some q => cell q (.nodes (nodes.map nodeValue) (capacity - nodes.length))

namespace Layout

variable (L : Layout D)

/-- All blocks of the store, in the order in which they are freed. -/
def blocks : Blocks (Block D) :=
  stopKind.segment L.stops none + (routeBlocks L.routes + (stationKind.segment L.stations none +
    (subwayDistanceKind.segment L.subwayDistances none + (facilityKind.segment L.facilities none +
      (arrivalKind.segment L.arrivals none + (crowdingKind.segment L.crowdings none +
        ((L.nodes.map edgeBlocks).sum + arrayBlock L.nodes L.capacity L.array)))))))

/-- The records without their addresses. -/
def data : AppData D where
  stops := L.stops.map Prod.snd
  routes := L.routes.map routeRecord
  stations := L.stations.map Prod.snd
  subwayDistances := L.subwayDistances.map Prod.snd
  facilities := L.facilities.map Prod.snd
  arrivals := L.arrivals.map Prod.snd
  crowdings := L.crowdings.map Prod.snd
  graph := ⟨L.nodes.map nodeRecord, L.capacity⟩

end Layout

def Layout.empty : Layout D := ⟨[], [], [], [], [], [], [], none, [], 0⟩

/-- The store owns its blocks, beside those of `rest`, and points to them. -/
structure Laid (rest : Heap (Block D)) (s : AppDataMem D) (L : Layout D) : Prop where
  owns : s.mem.Owns (L.blocks + rest.entries)
  stops : s.stops = start L.stops none
  routes : s.routes = start (L.routes.map fun r => (r.1, routeValue r)) none
  stations : s.stations = start L.stations none
  subwayDistances : s.subwayDistances = start L.subwayDistances none
  facilities : s.facilities = start L.facilities none
  arrivals : s.arrivals = start L.arrivals none
  crowdings : s.crowdings = start L.crowdings none
  nodes : s.nodes = L.array
  nodeCount : s.nodeCount = L.nodes.length
  capacity : s.capacity = L.capacity
  room : L.nodes.length ≤ L.capacity
  array : L.array = none ↔ L.capacity = 0

theorem laid_init (rest : Heap (Block D)) : Laid rest (appDataInitMem ⟨rest, 0⟩) Layout.empty where
  owns := (zero_add rest.entries).symm
  stops := rfl
  routes := rfl
  stations := rfl
  subwayDistances := rfl
  facilities := rfl
  arrivals := rfl
  crowdings := rfl
  nodes := rfl
  nodeCount := rfl
  capacity := rfl
  room := Nat.le_refl 0
  array := ⟨fun _ => rfl, fun _ => rfl⟩

/-- A call ends, keeps the store laid out, and does `f true` to the records, or `f false`
where an allocation fails. -/
def KeepsLaid (alloc : Allocator (Block D)) (rest : Heap (Block D)) (r : Option (AppDataMem D))
    (f : Bool → AppData D) : Prop :=
  ∃ s L ok, r = some s ∧ Laid rest s L ∧ L.data = f ok ∧ (alloc.Total → ok = true)

variable {alloc : Allocator (Block D)} {rest : Heap (Block D)} {s : AppDataMem D} {L : Layout D}

/-! ## Records put in front -/

/-- A record that was put in front of its list, or not. -/
theorem KeepsLaid.of_push {α : Type} {a : α} {l l' : List (Addr × α)} (layout : List (Addr × α) → Layout D)
    (hl : (∃ q, l' = (q, a) :: l) ∨ l' = l ∧ ¬ alloc.Total) (h : Laid rest s (layout l')) {f : Bool → AppData D}
    (hadded : ∀ q, (layout ((q, a) :: l)).data = f true) (hkept : (layout l).data = f false) :
    KeepsLaid alloc rest (some s) f := by
  rcases hl with ⟨q, rfl⟩ | ⟨rfl, htotal⟩
  · exact ⟨s, _, true, rfl, h, hadded q, fun _ => rfl⟩
  · exact ⟨s, _, false, rfl, h, hkept, fun ht => absurd ht htotal⟩

/-- A list of the layout that hangs on `AppData`, and the same list of the records. -/
structure RecordList (D α : Type) extends RootList D α where
  add : AppData D → α → AppData D
  records : Layout D → List (Addr × α)
  withRecords : Layout D → List (Addr × α) → Layout D
  withRecords_records : ∀ L, withRecords L (records L) = L := by intro L; rfl
  blocks_eq : ∀ (L : Layout D) (l : List (Addr × α)) (m : Blocks (Block D)), (withRecords L l).blocks + m =
    kind.segment l none + ((withRecords L []).blocks + m) := by
      intro L l m
      simp only [Layout.blocks, NodeKind.segment]
      abel
  root_eq : ∀ {rest : Heap (Block D)} {s : AppDataMem D} {L : Layout D}, Laid rest s L → root s = start (records L) none
  laid : ∀ {rest : Heap (Block D)} {s : AppDataMem D} {L : Layout D} {mem : Memory (Block D)} {l : List (Addr × α)},
    Laid rest s L → mem.Owns ((withRecords L l).blocks + rest.entries) →
      Laid rest (withRoot s mem (start l none)) (withRecords L l)
  data_add : ∀ (L : Layout D) (q : Addr) (a : α), (withRecords L ((q, a) :: records L)).data = add L.data a := by
    intro L q a; rfl

def stopRecords : RecordList D (StopNode D) where
  toRootList := stopList
  add := stopAdd
  records := (·.stops)
  withRecords L l := { L with stops := l }
  root_eq h := h.stops
  laid h howns := { h with owns := howns, stops := rfl }

def stationRecords : RecordList D (StationNode D) where
  toRootList := stationList
  add := stationAdd
  records := (·.stations)
  withRecords L l := { L with stations := l }
  root_eq h := h.stations
  laid h howns := { h with owns := howns, stations := rfl }

def subwayDistanceRecords : RecordList D (SubwayDistanceNode D) where
  toRootList := subwayDistanceList
  add := subwayDistanceAdd
  records := (·.subwayDistances)
  withRecords L l := { L with subwayDistances := l }
  root_eq h := h.subwayDistances
  laid h howns := { h with owns := howns, subwayDistances := rfl }

def facilityRecords : RecordList D (FacilityNode D) where
  toRootList := facilityList
  add := facilityAdd
  records := (·.facilities)
  withRecords L l := { L with facilities := l }
  root_eq h := h.facilities
  laid h howns := { h with owns := howns, facilities := rfl }

def arrivalRecords : RecordList D ArrivalNode where
  toRootList := arrivalList
  add := arrivalAdd
  records := (·.arrivals)
  withRecords L l := { L with arrivals := l }
  root_eq h := h.arrivals
  laid h howns := { h with owns := howns, arrivals := rfl }

def crowdingRecords : RecordList D CrowdingNode where
  toRootList := crowdingList
  add := crowdingAdd
  records := (·.crowdings)
  withRecords L l := { L with crowdings := l }
  root_eq h := h.crowdings
  laid h howns := { h with owns := howns, crowdings := rfl }

section

variable {α : Type} (list : RecordList D α)

/-- The blocks of the list, and the others. -/
theorem Laid.owns_records (h : Laid rest s L) : s.mem.Owns (list.kind.segment (list.records L) none +
    ((list.withRecords L []).blocks + rest.entries)) := by
  rw [← list.blocks_eq, list.withRecords_records]
  exact h.owns

/-- A record is put in front, or there is no room for it. -/
theorem Laid.recordAdd (h : Laid rest s L) (value : α) : KeepsLaid alloc rest
    (some (recordAddMem alloc s list.toRootList value)) fun ok => if ok then list.add L.data value else L.data := by
  obtain ⟨l, hroot, howns, hl⟩ := (h.owns_records list).push alloc value
  rw [← list.root_eq h] at hroot howns
  have hlaid : Laid rest (recordAddMem alloc s list.toRootList value) (list.withRecords L l) := by
    have := list.laid h (howns.of_eq (list.blocks_eq L l _).symm)
    rw [← hroot] at this
    exact this
  refine KeepsLaid.of_push (list.withRecords L) hl hlaid (fun q => list.data_add L q value) ?_
  rw [list.withRecords_records]
  rfl

theorem Laid.findRecord (h : Laid rest s L) (p : α → Bool) : findRecordMem s list.toRootList p =
    some (((list.records L).find? fun c => p c.2).map Prod.fst) := by
  unfold findRecordMem
  rw [list.root_eq h]
  exact (h.owns_records list).findNode (h.owns_records list).length_le p

theorem Laid.readList (h : Laid rest s L) :
    list.kind.readNodes s.mem.size s.mem (list.root s) = some ((list.records L).map Prod.snd) := by
  rw [list.root_eq h]
  exact (h.owns_records list).readNodes (h.owns_records list).length_le

end

/-! ## Routes -/

theorem blocks_routes (L : Layout D) (routes : List (Addr × RouteNode × List (Addr × RouteStopNode)))
    (m : Blocks (Block D)) :
    { L with routes := routes }.blocks + m = routeBlocks routes + ({ L with routes := [] }.blocks + m) := by
  simp only [Layout.blocks, routeBlocks, NodeKind.segment, List.map_nil, List.sum_nil]
  abel

/-- The blocks of the routes, those of their stops, and the others. -/
theorem Laid.owns_routes (h : Laid rest s L) :
    s.mem.Owns (routeKind.segment (L.routes.map fun r => (r.1, routeValue r)) none +
      ((L.routes.map stopBlocks).sum + ({ L with routes := [] }.blocks + rest.entries))) :=
  (h.owns.of_eq (blocks_routes L L.routes _)).of_eq (add_assoc _ _ _)

/-- The blocks of one route among the others. -/
theorem blocks_route (L : Layout D) (before after : List (Addr × RouteNode × List (Addr × RouteStopNode))) (q : Addr)
    (node : RouteNode) (stops : List (Addr × RouteStopNode)) (m : Blocks (Block D)) :
    { L with routes := before ++ (q, node, stops) :: after }.blocks + m =
      routeKind.segment ((before.map fun r => (r.1, routeValue r)) ++
        (q, (node, start stops none)) :: after.map fun r => (r.1, routeValue r)) none +
      (routeStopKind.segment stops none + ((before.map stopBlocks).sum + (after.map stopBlocks).sum +
        ({ L with routes := [] }.blocks + m))) := by
  rw [blocks_routes, routeBlocks, List.map_append, List.map_append, List.map_cons, List.map_cons, List.sum_append,
    List.sum_cons]
  show routeKind.segment (_ ++ (q, (node, start stops none)) :: _) none +
    ((before.map stopBlocks).sum + (routeStopKind.segment stops none + _)) + _ = _
  abel

theorem Laid.routeAdd (h : Laid rest s L) (value : RouteNode) :
    KeepsLaid alloc rest (some (routeAddMem alloc s value)) fun ok =>
      if ok then Transit.routeAdd L.data value else L.data := by
  obtain ⟨l, hroot, howns, hl⟩ := h.owns_routes.push alloc ({ value with stops := [] }, none)
  rw [← h.routes] at hroot howns
  rcases hl with ⟨q, rfl⟩ | ⟨rfl, htotal⟩
  · refine ⟨_, { L with routes := (q, { value with stops := [] }, []) :: L.routes }, true, rfl,
      { h with owns := howns.of_eq ?_, routes := hroot }, rfl, fun _ => rfl⟩
    refine Eq.trans ?_ (blocks_routes L _ _).symm
    show _ = routeKind.segment ((q, ({ value with stops := [] }, none)) :: _) none +
      (0 + (L.routes.map stopBlocks).sum) + _
    abel
  · exact ⟨_, L, false, rfl, { h with
      owns := howns.of_eq ((add_assoc _ _ _).symm.trans (blocks_routes L L.routes _).symm), routes := hroot },
      rfl, fun ht => absurd ht htotal⟩

/-- The pointer found is that of the first route of that number. -/
theorem Laid.findRouteByNo (h : Laid rest s L) (routeNo : Str) :
    findRouteByNoMem s routeNo = some ((L.routes.find? fun r => r.2.1.routeNo.val == routeNo).map Prod.fst) := by
  unfold findRouteByNoMem
  rw [h.routes, h.owns_routes.findNode h.owns_routes.length_le, List.find?_map, Option.map_map]
  rfl

theorem addToRoute_of_not_mem {routeNo : Str} (rs : RouteStopNode) {routes : List RouteNode}
    (h : ∀ r ∈ routes, (r.routeNo.val == routeNo) = false) : addToRoute routeNo rs routes = routes := by
  induction routes with
  | nil => rfl
  | cons r routes ih =>
    rw [List.forall_mem_cons] at h
    rw [addToRoute, if_neg (by simp [h.1]), ih h.2]

theorem addToRoute_split {routeNo : Str} (rs : RouteStopNode) {before after : List RouteNode} {r : RouteNode}
    (h : ∀ r ∈ before, (r.routeNo.val == routeNo) = false) (hr : (r.routeNo.val == routeNo) = true) :
    addToRoute routeNo rs (before ++ r :: after) = before ++ Transit.routeStopAdd r rs :: after := by
  induction before with
  | nil => exact if_pos hr
  | cons b before ih =>
    rw [List.forall_mem_cons] at h
    rw [List.cons_append, addToRoute, if_neg (by simp [h.1]), ih h.2]
    rfl

theorem insertRouteStop_split (rs : RouteStopNode) (stops : List RouteStopNode) :
    insertRouteStop rs stops =
      (stops.takeWhile fun cur => cur.seq ≤ rs.seq) ++ rs :: stops.dropWhile fun cur => cur.seq ≤ rs.seq := by
  induction stops with
  | nil => rfl
  | cons cur stops ih =>
    rw [insertRouteStop, List.takeWhile_cons, List.dropWhile_cons]
    by_cases hseq : cur.seq ≤ rs.seq
    · rw [if_pos hseq, if_pos (decide_eq_true hseq), if_pos (decide_eq_true hseq), ih]
      rfl
    · rw [if_neg hseq, if_neg (by simpa using hseq), if_neg (by simpa using hseq)]
      rfl

/-- A stop put into the route found. -/
theorem Laid.routeStopAdd (h : Laid rest s L) (routeNo : Str) (value : RouteStopNode) :
    KeepsLaid alloc rest ((findRouteByNoMem s routeNo).bind fun route => routeStopAddMem alloc s route value) fun ok =>
      if ok then { L.data with routes := addToRoute routeNo value L.data.routes } else L.data := by
  rw [h.findRouteByNo, Option.bind_some]
  unfold routeStopAddMem
  cases hfind : L.routes.find? fun r => r.2.1.routeNo.val == routeNo with
  | none =>
    refine ⟨s, L, true, if_pos rfl, h, ?_, fun _ => rfl⟩
    have hnone : addToRoute routeNo value L.data.routes = L.data.routes := by
      apply addToRoute_of_not_mem
      intro r hr
      obtain ⟨r, hmem, rfl⟩ := List.mem_map.mp hr
      exact eq_false_of_ne_true (List.find?_eq_none.mp hfind r hmem)
    simp only [hnone, if_true]
  | some r =>
    obtain ⟨hr, before, after, hroutes, hbefore⟩ := List.find?_eq_some_iff_append.mp hfind
    obtain ⟨q, node, stops⟩ := r
    have hL : L = { L with routes := before ++ (q, node, stops) :: after } := by rw [← hroutes]
    have howns := h.owns.of_eq ((congrArg (fun L => L.blocks + rest.entries) hL).trans (blocks_route L _ _ _ _ _ _))
    have hread := (howns.update (node, none)).1
    have hstops := howns.of_eq (add_left_comm _ _ _)
    obtain ⟨mem₁, stops', hinsert, hmem₁, hstops'⟩ :=
      hstops.insert alloc hstops.length_le (fun cur => decide (cur.seq ≤ value.seq)) value
    obtain ⟨mem₂, hstore, hmem₂⟩ := ((hmem₁.of_eq (add_left_comm _ _ _)).update (node, start stops' none)).2
    have hlaid : Laid rest { s with mem := mem₂ } { L with routes := before ++ (q, node, stops') :: after } :=
      { h with
        owns := hmem₂.of_eq (blocks_route L _ _ _ _ _ _).symm
        routes := by
          rw [h.routes, hroutes, List.map_append, List.map_append, start_append, start_append]
          rfl }
    simp only [Option.map_some, if_neg (Option.some_ne_none q), hread, Option.bind_some, hinsert, hstore]
    rcases hstops' with ⟨q', rfl⟩ | ⟨rfl, htotal⟩
    · refine ⟨_, _, true, rfl, hlaid, ?_, fun _ => rfl⟩
      have hdata : L.data.routes = before.map routeRecord ++ routeRecord (q, node, stops) :: after.map routeRecord := by
        rw [show L.data.routes = L.routes.map routeRecord from rfl, hroutes, List.map_append, List.map_cons]
      have hadded : addToRoute routeNo value L.data.routes = before.map routeRecord ++
          Transit.routeStopAdd (routeRecord (q, node, stops)) value :: after.map routeRecord := by
        rw [hdata]
        refine addToRoute_split value (fun r hr => ?_)
          (show ((routeRecord (q, node, stops)).routeNo.val == routeNo) = true from hr)
        obtain ⟨b, hb, rfl⟩ := List.mem_map.mp hr
        exact (Bool.not_eq_true' _).mp (hbefore b hb)
      simp only [hadded, if_true]
      unfold Layout.data Transit.routeStopAdd routeRecord
      simp only [List.map_append, List.map_cons, insertRouteStop_split, List.takeWhile_map, List.dropWhile_map]
      rfl
    · exact ⟨_, _, false, rfl, hlaid, by rw [← hL]; rfl, fun ht => absurd ht htotal⟩

/-! ## The node array -/

theorem blocks_graph (L : Layout D) (array : Ptr) (nodes : List (GraphNode D × List (Addr × GraphEdge)))
    (capacity : Nat)
    (m : Blocks (Block D)) :
    { L with array := array, nodes := nodes, capacity := capacity }.blocks + m = arrayBlock nodes capacity array +
      ((nodes.map edgeBlocks).sum + ({ L with array := none, nodes := [], capacity := 0 }.blocks + m)) := by
  simp only [Layout.blocks, List.map_nil, List.sum_nil]
  show _ = arrayBlock nodes capacity array + ((nodes.map edgeBlocks).sum +
    (_ + (_ + (_ + (_ + (_ + (_ + (_ + ((0 : Blocks (Block D)) + 0))))))) + m))
  abel

theorem Laid.owns_graph (h : Laid rest s L) :
    s.mem.Owns (arrayBlock L.nodes L.capacity L.array + ((L.nodes.map edgeBlocks).sum +
      ({ L with array := none, nodes := [], capacity := 0 }.blocks + rest.entries))) :=
  h.owns.of_eq (blocks_graph L L.array L.nodes L.capacity _)

theorem readCells_eq {mem : Memory (Block D)} {q : Addr} {cells : List (GraphNode D × Ptr)} {zeroed : Nat}
    {m : Blocks (Block D)} (h : mem.Owns (cell q (.nodes cells zeroed) + m)) :
    readCells mem (some q) = some (cells, zeroed) := by
  unfold readCells
  rw [h.load]
  rfl

/-- A store with nodes has an array. -/
theorem Laid.array_eq (h : Laid rest s L) (hpos : 0 < L.capacity) :
    ∃ q, L.array = some q ∧ s.nodes = some q ∧
      s.mem.Owns (cell q (.nodes (L.nodes.map nodeValue) (L.capacity - L.nodes.length)) +
        ((L.nodes.map edgeBlocks).sum +
          ({ L with array := none, nodes := [], capacity := 0 }.blocks + rest.entries))) := by
  have howns := h.owns_graph
  cases harray : L.array with
  | none =>
    have := h.array.mp harray
    omega
  | some q =>
    rw [harray] at howns
    exact ⟨q, rfl, h.nodes.trans harray, howns⟩

theorem Laid.usedCells (h : Laid rest s L) : Transit.usedCells s = some (L.nodes.map nodeValue) := by
  unfold Transit.usedCells
  rw [h.nodeCount]
  by_cases hnil : L.nodes.length = 0
  · rw [if_pos hnil, List.eq_nil_of_length_eq_zero hnil]
    rfl
  · have hroom := h.room
    obtain ⟨q, -, hq, howns⟩ := h.array_eq (by omega)
    rw [if_neg hnil, hq, readCells_eq howns, Option.bind_some]
    show (if L.nodes.length ≤ (L.nodes.map nodeValue).length then _ else _) = _
    rw [List.length_map, if_pos (Nat.le_refl _), List.take_of_length_le (by rw [List.length_map])]

theorem Laid.graphFindNode (h : Laid rest s L) (nodeId : Str) :
    graphFindNodeMem s nodeId = some (Transit.graphFindNode L.data.graph nodeId) := by
  unfold graphFindNodeMem Transit.graphFindNode
  rw [h.usedCells]
  simp only [Option.map_some, Layout.data, List.findIdx?_map]
  rfl

/-- Writing one of the nodes, or the first element behind them. -/
theorem writeCell_eq {q : Addr} {cells : List (GraphNode D × Ptr)} {zeroed i : Nat} {node : GraphNode D × Ptr}
    {block : Block D} {m : Blocks (Block D)} (hq : s.nodes = some q) (h : s.mem.Owns (cell q (.nodes cells zeroed) + m))
    (hblock : i < cells.length ∧ block = .nodes (cells.set i node) zeroed ∨
      i = cells.length ∧ 0 < zeroed ∧ block = .nodes (cells ++ [node]) (zeroed - 1)) :
    ∃ mem, writeCell s i node = some { s with mem := mem } ∧ mem.Owns (cell q block + m) := by
  obtain ⟨mem, hstore, hmem⟩ := h.store block
  refine ⟨mem, ?_, hmem⟩
  unfold writeCell
  rw [hq, readCells_eq h, Option.bind_some]
  rcases hblock with ⟨hi, rfl⟩ | ⟨hi, hpos, rfl⟩
  · simp only [if_pos hi, Option.bind_some, hstore, Option.map_some]
  · simp only [if_neg (show ¬ i < cells.length by omega), if_pos (And.intro hi hpos), Option.bind_some, hstore,
      Option.map_some]

/-! ## Nodes -/

/-- The array grows, or the request for it fails. -/
theorem Laid.graphReserve (h : Laid rest s L) (alloc : Allocator (Block D)) (needed : Nat) :
    ∃ s' L' ok, graphReserveMem alloc s needed = some (s', ok) ∧ Laid rest s' L' ∧
      ((ok = true ∧ (∃ array capacity, L' = { L with array := array, capacity := capacity }) ∧
          Transit.graphReserve true L.data.graph needed = some L'.data.graph) ∨
        ok = false ∧ L' = L ∧ Transit.graphReserve false L.data.graph needed = none ∧ ¬ alloc.Total) := by
  unfold graphReserveMem
  rw [h.capacity]
  by_cases hroom : L.capacity ≥ needed
  · exact ⟨s, L, true, if_pos hroom, h, .inl ⟨rfl, ⟨L.array, L.capacity, rfl⟩, if_pos hroom⟩⟩
  · rw [if_neg hroom]
    have hgrown : Transit.graphReserve true L.data.graph needed = some ⟨L.data.graph.nodes,
        growCapacity needed (if L.capacity = 0 then 16 else L.capacity * 2) needed⟩ :=
      (if_neg hroom).trans (if_pos rfl)
    have hneeded := (graphReserve_spec hgrown).2
    generalize growCapacity needed (if L.capacity = 0 then 16 else L.capacity * 2) needed = grown at hgrown hneeded ⊢
    replace hneeded : needed ≤ grown := hneeded
    have hlen := h.room
    -- the array there is, and the memory without it
    have hcells : ∃ freed, s.mem.free s.nodes = some freed ∧ freed.Owns ((L.nodes.map edgeBlocks).sum +
        ({ L with array := none, nodes := [], capacity := 0 }.blocks + rest.entries)) ∧
        (if s.nodes = none then some ([], 0) else readCells s.mem s.nodes) =
          some (L.nodes.map nodeValue, L.capacity - L.nodes.length) := by
      by_cases hzero : L.capacity = 0
      · have hnodes : L.nodes = [] := List.eq_nil_of_length_eq_zero (by omega)
        have howns := h.owns_graph
        rw [h.array.mpr hzero] at howns
        have hnull : s.nodes = none := h.nodes.trans (h.array.mpr hzero)
        rw [hnull, hnodes, hzero]
        rw [hnodes] at howns
        exact ⟨s.mem, rfl, howns.of_eq (zero_add _), if_pos rfl⟩
      · obtain ⟨q, -, hq, howns⟩ := h.array_eq (by omega)
        obtain ⟨freed, hfree, hfreed⟩ := howns.free
        rw [hq]
        exact ⟨freed, hfree, hfreed, (if_neg (Option.some_ne_none q)).trans (readCells_eq howns)⟩
    obtain ⟨freed, hfree, hfreed, hread⟩ := hcells
    rw [hread, Option.bind_some]
    obtain ⟨⟨p, mem⟩, hrealloc, hmem⟩ := hfreed.realloc hfree alloc
      (.nodes (L.nodes.map nodeValue) (grown - (L.nodes.map nodeValue).length))
    rw [List.length_map] at hmem hrealloc
    rcases hmem with ⟨q, rfl, hmem⟩ | ⟨rfl, hheap, htotal⟩
    · refine ⟨{ s with mem := mem, nodes := some q, capacity := grown },
        { L with array := some q, capacity := grown }, true, ?_, { h with
          owns := hmem.of_eq (blocks_graph L (some q) L.nodes grown _).symm
          nodes := rfl
          capacity := rfl
          room := ?_
          array := ⟨fun hq => absurd hq (Option.some_ne_none q), fun hzero => ?_⟩ },
        .inl ⟨rfl, ⟨some q, grown, rfl⟩, hgrown⟩⟩
      · show (Memory.realloc _ _ _ (Block.nodes _ (grown - (L.nodes.map nodeValue).length))).map _ = _
        rw [List.length_map, hrealloc]
        rfl
      · show L.nodes.length ≤ grown
        omega
      · have : grown = 0 := hzero
        omega
    · refine ⟨{ s with mem := mem, capacity := L.capacity }, L, false, ?_,
        { h with owns := (congrArg Finmap.entries hheap).trans h.owns, capacity := rfl },
        .inr ⟨rfl, rfl, (if_neg hroom).trans (if_neg Bool.false_ne_true), htotal⟩⟩
      show (Memory.realloc _ _ _ (Block.nodes _ (grown - (L.nodes.map nodeValue).length))).map _ = _
      rw [List.length_map, hrealloc]
      rfl

/-- A node is appended, if its id is new. -/
theorem Laid.graphAddNode (h : Laid rest s L) (alloc : Allocator (Block D)) (nodeId nodeName nodeType : Str)
    (lat lng : D) :
    KeepsLaid alloc rest ((graphAddNodeMem alloc s nodeId nodeName nodeType lat lng).map Prod.fst) fun ok =>
      { L.data with graph := (Transit.graphAddNode ok L.data.graph nodeId nodeName nodeType lat lng).1 } := by
  unfold graphAddNodeMem
  rw [h.graphFindNode, Option.bind_some]
  by_cases hfound : Transit.graphFindNode L.data.graph nodeId ≥ 0
  · rw [if_pos hfound]
    refine ⟨s, L, true, rfl, h, ?_, fun _ => rfl⟩
    simp only [Transit.graphAddNode, if_pos hfound]
  · rw [if_neg hfound]
    obtain ⟨s₁, L₁, ok, hreserve, hlaid, hgrown⟩ := h.graphReserve alloc (s.nodeCount + 1)
    rw [hreserve, Option.bind_some]
    have hcount : L.data.graph.nodeCount = s.nodeCount := (List.length_map _).trans h.nodeCount.symm
    rcases hgrown with ⟨rfl, ⟨array, capacity, rfl⟩, hgrown⟩ | ⟨rfl, rfl, hkept, htotal⟩
    · let node : GraphNode D :=
        { nodeId := .copy _ nodeId, nodeName := .copy _ nodeName, nodeType := .copy _ nodeType,
          lat := lat, lng := lng, edges := [] }
      have hroom : s.nodeCount + 1 ≤ capacity := (graphReserve_spec hgrown).2
      have hlen : s₁.nodeCount = L.nodes.length := hlaid.nodeCount
      have hlen₀ := h.nodeCount
      obtain ⟨q, hq, hnodes, howns⟩ := hlaid.array_eq (show 0 < capacity by omega)
      obtain ⟨mem, hwrite, hmem⟩ := @writeCell_eq D s₁ q _ _ s₁.nodeCount (node, none) _ _ hnodes howns (.inr
        ⟨by rw [hlen, List.length_map], show 0 < capacity - L.nodes.length by omega, rfl⟩)
      have hlaid' : Laid rest { s₁ with mem := mem, nodeCount := s₁.nodeCount + 1 }
          { L with array := array, capacity := capacity, nodes := L.nodes ++ [(node, [])] } :=
        { hlaid with
          owns := hmem.of_eq (by
            refine Eq.trans ?_ (blocks_graph L array (L.nodes ++ [(node, [])]) capacity _).symm
            rw [show array = some q from hq]
            show _ = cell q (Block.nodes ((L.nodes ++ [(node, [])]).map nodeValue) _) + _
            rw [List.map_append, List.map_append, List.sum_append, List.length_append]
            show _ = cell q _ + (((L.nodes.map edgeBlocks).sum + (0 + 0)) + _)
            rw [add_zero, add_zero, Nat.sub_add_eq]
            rfl)
          nodeCount := by
            show s₁.nodeCount + 1 = (L.nodes ++ [(node, [])]).length
            rw [List.length_append, hlen]
            rfl
          room := by
            show (L.nodes ++ [(node, [])]).length ≤ capacity
            rw [List.length_append, List.length_singleton]
            omega }
      refine ⟨_, _, true, ?_, hlaid', ?_, fun _ => rfl⟩
      · show Option.map Prod.fst ((writeCell s₁ s₁.nodeCount (node, none)).map _) = _
        rw [hwrite]
        rfl
      · simp only [Transit.graphAddNode, if_neg hfound, hcount, hgrown]
        unfold Layout.data
        simp only [List.map_append]
        rfl
    · refine ⟨s₁, L₁, false, rfl, hlaid, ?_, fun ht => absurd ht htotal⟩
      simp only [Transit.graphAddNode, if_neg hfound, hcount, hkept]

/-! ## Edges -/

/-- The element of one node in the array, and the blocks of its edges. -/
theorem blocks_node (L : Layout D) {q : Addr} (hq : L.array = some q)
    (before after : List (GraphNode D × List (Addr × GraphEdge))) (node : GraphNode D) (edges : List (Addr × GraphEdge))
    (m : Blocks (Block D)) :
    { L with nodes := before ++ (node, edges) :: after }.blocks + m =
      cell q (Block.nodes (before.map nodeValue ++ (node, start edges none) :: after.map nodeValue)
        (L.capacity - (before.length + (after.length + 1)))) +
      (edgeKind.segment edges none + ((before.map edgeBlocks).sum + (after.map edgeBlocks).sum +
        ({ L with array := none, nodes := [], capacity := 0 }.blocks + m))) := by
  have hL : ({ L with nodes := before ++ (node, edges) :: after } : Layout D) =
      { L with array := some q, nodes := before ++ (node, edges) :: after, capacity := L.capacity } := by rw [← hq]
  rw [hL, blocks_graph]
  show cell q (Block.nodes ((before ++ (node, edges) :: after).map nodeValue) _) + _ = _
  rw [List.map_append, List.map_append, List.map_cons, List.map_cons, List.sum_append, List.sum_cons,
    List.length_append,
    List.length_cons]
  show cell q _ + ((before.map edgeBlocks).sum + (edgeKind.segment edges none + (after.map edgeBlocks).sum) + _) = _
  congr 1
  abel

theorem improveEdge_split {toIndex : Nat} (weightMin : Int) (routeNo : Str) {before after : List GraphEdge}
    {e : GraphEdge}
    (h : ∀ e ∈ before, e.toIndex ≠ toIndex) (he : e.toIndex = toIndex) :
    improveEdge toIndex weightMin routeNo (before ++ e :: after) = before ++
      (if weightMin > 0 ∧ weightMin < e.weightMin then { e with weightMin := weightMin, routeNo := .copy _ routeNo }
        else e) :: after := by
  induction before with
  | nil => exact if_pos he
  | cons b before ih =>
    rw [List.forall_mem_cons] at h
    rw [List.cons_append, improveEdge, if_neg h.1, ih h.2]
    rfl

/-- The edges of one node of the graph are changed. -/
theorem modifyEdges_split {g : TransferGraph D} {before after : List (GraphNode D)} {node : GraphNode D}
    (hg : g.nodes = before ++ node :: after) (f : List GraphEdge → List GraphEdge) :
    g.modifyEdges before.length f = { g with nodes := before ++ { node with edges := f node.edges } :: after } := by
  unfold TransferGraph.modifyEdges
  rw [hg]
  congr 1
  clear hg
  induction before with
  | nil => rfl
  | cons b before ih => exact congrArg (b :: ·) ih

section Edges

variable {before after : List (GraphNode D × List (Addr × GraphEdge))} {node : GraphNode D}
  {edges edges' : List (Addr × GraphEdge)}

/-- The store with other edges at one node. -/
theorem Laid.withEdges (h : Laid rest s L) (hsplit : L.nodes = before ++ (node, edges) :: after)
    {mem : Memory (Block D)}
    (hmem : mem.Owns (({ L with nodes := before ++ (node, edges') :: after } : Layout D).blocks + rest.entries)) :
    Laid rest { s with mem := mem } { L with nodes := before ++ (node, edges') :: after } := by
  have hlen : (before ++ (node, edges') :: after).length = L.nodes.length := by
    rw [hsplit, List.length_append, List.length_append]
    rfl
  exact { h with
    owns := hmem
    nodeCount := h.nodeCount.trans hlen.symm
    room := Nat.le_trans (Nat.le_of_eq hlen) h.room }

theorem data_withEdges (hsplit : L.nodes = before ++ (node, edges) :: after) {f : List GraphEdge → List GraphEdge}
    (hf : f (edges.map Prod.snd) = edges'.map Prod.snd) :
    ({ L with nodes := before ++ (node, edges') :: after } : Layout D).data =
      { L.data with graph := L.data.graph.modifyEdges before.length f } := by
  have hg : L.data.graph.nodes = before.map nodeRecord ++ nodeRecord (node, edges) :: after.map nodeRecord := by
    rw [show L.data.graph.nodes = L.nodes.map nodeRecord from rfl, hsplit, List.map_append, List.map_cons]
  have hmodify := modifyEdges_split hg f
  rw [List.length_map] at hmodify
  rw [hmodify, show (nodeRecord (node, edges)).edges = edges.map Prod.snd from rfl, hf]
  unfold Layout.data
  rw [List.map_append]
  rfl

/-- The element of the node, and its edges, as `graph_add_edge` finds them. -/
theorem Laid.owns_node (h : Laid rest s L) {q : Addr} (hq : L.array = some q)
    (hsplit : L.nodes = before ++ (node, edges) :: after) :
    s.mem.Owns (cell q (Block.nodes (before.map nodeValue ++ (node, start edges none) :: after.map nodeValue)
        (L.capacity - (before.length + (after.length + 1)))) +
      (edgeKind.segment edges none + ((before.map edgeBlocks).sum + (after.map edgeBlocks).sum +
        ({ L with array := none, nodes := [], capacity := 0 }.blocks + rest.entries)))) := by
  have hL : L = { L with nodes := before ++ (node, edges) :: after } := by rw [← hsplit]
  exact h.owns.of_eq ((congrArg (fun L => L.blocks + rest.entries) hL).trans (blocks_node L hq _ _ _ _ _))

theorem getElem?_nodeValues (p : Ptr) : (before.map nodeValue ++ (node, p) :: after.map nodeValue)[before.length]? =
    some (node, p) := by
  rw [List.getElem?_append_right (by rw [List.length_map]), List.length_map, Nat.sub_self]
  rfl

theorem set_nodeValues (p p' : Ptr) :
    (before.map nodeValue ++ (node, p) :: after.map nodeValue).set before.length (node, p') =
    before.map nodeValue ++ (node, p') :: after.map nodeValue := by
  rw [List.set_append_right _ _ (by rw [List.length_map]), List.length_map, Nat.sub_self]
  rfl

/-- Without an edge to the node, a new one is put in front. -/
theorem Laid.newEdge (h : Laid rest s L) (alloc : Allocator (Block D)) {q : Addr} (hq : L.array = some q)
    (hsplit : L.nodes = before ++ (node, edges) :: after) (edge : GraphEdge) {f : Bool → AppData D}
    (hadded : ∀ q', ({ L with nodes := before ++ (node, (q', edge) :: edges) :: after } : Layout D).data = f true)
    (hkept : L.data = f false) :
    KeepsLaid alloc rest ((let (p, mem) := s.mem.malloc alloc (edgeKind.block edge (start edges none))
      if p = none then some ({ s with mem := mem }, false)
      else (writeCell { s with mem := mem } before.length (node, p)).map fun s => (s, true)).map Prod.fst) f := by
  have howns := h.owns_node hq hsplit
  rcases howns.malloc alloc (edgeKind.block edge (start edges none)) with ⟨q', hq', hmem⟩ | ⟨hq', hmem, htotal⟩
  · rw [← Prod.eta (s.mem.malloc alloc _), hq']
    obtain ⟨mem, hwrite, hmem⟩ := @writeCell_eq D { s with mem := (s.mem.malloc alloc _).2 } q _ _ before.length
      (node, some q') _ _ (h.nodes.trans hq) (hmem.of_eq (add_left_comm _ _ _)) (.inl ⟨by
        rw [List.length_append, List.length_map, List.length_cons]
        omega, rfl⟩)
    refine ⟨_, _, true, ?_, h.withEdges hsplit (hmem.of_eq ?_), hadded q', fun _ => rfl⟩
    · show Option.map Prod.fst (Option.map _ (writeCell _ _ _)) = _
      rw [hwrite]
      rfl
    · rw [set_nodeValues, blocks_node L hq]
      exact congrArg _ (add_assoc (cell q' _) (edgeKind.segment edges none) _).symm
  · rw [← Prod.eta (s.mem.malloc alloc _), hq']
    exact ⟨_, L, false, rfl, { h with owns := hmem.of_eq (howns.symm.trans h.owns) }, hkept, fun ht => absurd ht htotal⟩

/-- What `graph_add_edge` does with two different nodes. -/
theorem Laid.putEdge (h : Laid rest s L) (alloc : Allocator (Block D)) {q : Addr} (hq : L.array = some q)
    (hsplit : L.nodes = before ++ (node, edges) :: after) (toIndex : Nat) (weightMin : Int) (routeNo : Str) :
    KeepsLaid alloc rest ((Transit.putEdge alloc s before.length toIndex weightMin routeNo).map Prod.fst) fun ok =>
      { L.data with graph :=
          if !ok && ((edges.map Prod.snd).find? (·.toIndex == toIndex)).isNone then L.data.graph
          else L.data.graph.modifyEdges before.length (addEdge toIndex weightMin routeNo) } := by
  have howns := h.owns_node hq hsplit
  have hedges := howns.of_eq (add_left_comm _ _ _)
  have hcells := readCells_eq howns
  rw [← show s.nodes = some q from h.nodes.trans hq] at hcells
  unfold Transit.putEdge
  rw [hcells, Option.bind_some]
  simp only [getElem?_nodeValues, Option.bind_some, hedges.findNode hedges.length_le]
  rw [List.find?_map]
  cases hfind : edges.find? ((·.toIndex == toIndex) ∘ Prod.snd) with
  | none =>
    have hadd : addEdge toIndex weightMin routeNo (edges.map Prod.snd) =
        { toIndex := toIndex, weightMin := if weightMin > 0 then weightMin else 1, routeNo := .copy _ routeNo } ::
          edges.map Prod.snd := by
      apply if_neg
      rw [List.any_map, List.any_eq_true]
      rintro ⟨c, hc, hto⟩
      exact List.find?_eq_none.mp hfind c hc hto
    rw [show (edges.find? fun c => c.2.toIndex == toIndex) = none from hfind, Option.map_none, if_pos rfl]
    apply h.newEdge alloc hq hsplit
    · exact fun q' => data_withEdges hsplit hadd
    · rfl
  | some c =>
    obtain ⟨qe, e⟩ := c
    obtain ⟨he, t, d, rfl, ht⟩ := List.find?_eq_some_iff_append.mp hfind
    have hto : e.toIndex = toIndex := beq_iff_eq.mp he
    have hbefore : ∀ e ∈ t.map Prod.snd, e.toIndex ≠ toIndex := by
      intro e he
      obtain ⟨c, hc, rfl⟩ := List.mem_map.mp he
      simpa using ht c hc
    have hany : ((t ++ (qe, e) :: d).map Prod.snd).any (·.toIndex == toIndex) = true :=
      List.any_eq_true.mpr ⟨e, List.mem_map_of_mem (List.mem_append_right _ List.mem_cons_self), he⟩
    have hadd : addEdge toIndex weightMin routeNo ((t ++ (qe, e) :: d).map Prod.snd) = t.map Prod.snd ++
        (if weightMin > 0 ∧ weightMin < e.weightMin then { e with weightMin := weightMin, routeNo := .copy _ routeNo }
          else e) :: d.map Prod.snd := by
      unfold addEdge
      rw [if_pos hany, List.map_append, List.map_cons, improveEdge_split weightMin routeNo hbefore hto]
    obtain ⟨hread, mem, hstore, hmem⟩ := hedges.update { e with weightMin := weightMin, routeNo := .copy _ routeNo }
    rw [show ((t ++ (qe, e) :: d).find? fun c => c.2.toIndex == toIndex) = some (qe, e) from hfind, Option.map_some,
      if_neg (Option.some_ne_none qe), hread, Option.bind_some]
    by_cases hbetter : weightMin > 0 ∧ weightMin < e.weightMin
    · rw [if_pos hbetter] at hadd
      simp only [if_pos hbetter, hstore]
      have hlaid : Laid rest { s with mem := mem } { L with nodes := before ++
          (node, t ++ (qe, { e with weightMin := weightMin, routeNo := .copy _ routeNo }) :: d) :: after } := by
        apply h.withEdges hsplit
        rw [blocks_node L hq, start_append]
        rw [start_append] at hmem
        exact hmem.of_eq (add_left_comm _ _ _)
      refine ⟨_, _, true, rfl, hlaid, data_withEdges hsplit ?_, fun _ => rfl⟩
      rw [hadd, List.map_append, List.map_cons]
    · rw [if_neg hbetter] at hadd
      simp only [if_neg hbetter]
      have hkept : addEdge toIndex weightMin routeNo ((t ++ (qe, e) :: d).map Prod.snd) =
          (t ++ (qe, e) :: d).map Prod.snd := by rw [hadd, List.map_append, List.map_cons]
      have hdata := data_withEdges hsplit hkept
      rw [← hsplit] at hdata
      exact ⟨s, L, true, rfl, h, hdata, fun _ => rfl⟩

end Edges

theorem Laid.graphAddEdge (h : Laid rest s L) (alloc : Allocator (Block D)) (fromIndex toIndex weightMin : Int)
    (routeNo : Str) :
    KeepsLaid alloc rest ((graphAddEdgeMem alloc s fromIndex toIndex weightMin routeNo).map Prod.fst) fun ok =>
      { L.data with graph := (Transit.graphAddEdge ok L.data.graph fromIndex toIndex weightMin routeNo).1 } := by
  have hcount : L.data.graph.nodeCount = s.nodeCount := (List.length_map _).trans h.nodeCount.symm
  unfold graphAddEdgeMem Transit.graphAddEdge
  rw [hcount]
  by_cases hrange : fromIndex < 0 ∨ toIndex < 0 ∨ fromIndex ≥ s.nodeCount ∨ toIndex ≥ s.nodeCount
  · simp only [if_pos hrange]
    exact ⟨s, L, true, rfl, h, rfl, fun _ => rfl⟩
  by_cases hloop : fromIndex = toIndex
  · simp only [if_neg hrange, if_pos hloop]
    exact ⟨s, L, true, rfl, h, rfl, fun _ => rfl⟩
  simp only [if_neg hrange, if_neg hloop]
  obtain ⟨a, rfl⟩ := Int.eq_ofNat_of_zero_le (show 0 ≤ fromIndex by omega)
  have hlen := h.nodeCount
  have hroom := h.room
  have ha : a < L.nodes.length := by omega
  obtain ⟨q, hq, -, -⟩ := h.array_eq (by omega)
  -- the node from which the edge goes, among the others
  obtain ⟨before, ⟨node, edges⟩, after, hsplit, rfl⟩ :
      ∃ before n after, L.nodes = before ++ n :: after ∧ before.length = a :=
    ⟨L.nodes.take a, L.nodes[a], L.nodes.drop (a + 1), by rw [List.getElem_cons_drop, List.take_append_drop],
      List.length_take_of_le (by omega)⟩
  have hedges : L.data.graph.edgesAt before.length = edges.map Prod.snd := by
    unfold TransferGraph.edgesAt
    rw [show L.data.graph.nodes = L.nodes.map nodeRecord from rfl, hsplit, List.map_append, List.map_cons,
      List.getElem?_append_right (by rw [List.length_map]), List.length_map, Nat.sub_self]
    rfl
  have hput := h.putEdge alloc hq hsplit toIndex.toNat weightMin routeNo
  unfold graphFindEdge
  rw [← hedges] at hput
  obtain ⟨s', L', ok, hrun, hlaid, hdata, htotal⟩ := hput
  refine ⟨s', L', ok, hrun, hlaid, hdata.trans ?_, htotal⟩
  beta_reduce
  rw [Int.toNat_natCast, apply_ite Prod.fst]

end Transit
