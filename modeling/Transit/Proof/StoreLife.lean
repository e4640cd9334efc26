import Transit.Framework.Folds
import Transit.Proof.StoreBlocks

/-!
# The store from its first call to `app_data_free`

Read along its pointers, a store that is laid out gives its records (`Laid.read`),
and `app_data_free` gives back its blocks and no others (`Laid.free`). Both hold
after any calls, whichever of their allocations fail.

* `storeCalls_memory`: any calls, in the memory and on lists.
-/

namespace Transit

open Framework

variable {D : Type} {rest : Heap (Block D)} {s : AppDataMem D} {L : Layout D}

/-! ## Reading -/

theorem Laid.readRoutes (h : Laid rest s L) : Transit.readRoutes s.mem s.routes = some L.data.routes := by
  unfold Transit.readRoutes
  rw [h.routes, h.owns_routes.readNodes h.owns_routes.length_le, Option.bind_some, List.map_map]
  apply mapM_map
  intro r hr
  obtain ⟨before, after, hsplit⟩ := List.append_of_mem hr
  have hL : L = { L with routes := before ++ r :: after } := by rw [← hsplit]
  have howns := (h.owns.of_eq ((congrArg (fun L => L.blocks + rest.entries) hL).trans
    (blocks_route L before after r.1 r.2.1 r.2.2 _))).of_eq (add_left_comm _ _ _)
  show (routeStopKind.readNodes s.mem.size s.mem (start r.2.2 none)).map _ = _
  rw [howns.readNodes howns.length_le]
  rfl

theorem Laid.readGraph (h : Laid rest s L) : Transit.readGraph s = some L.data.graph := by
  unfold Transit.readGraph
  rw [h.usedCells, Option.bind_some, h.capacity]
  have hnodes : (L.nodes.map nodeValue).mapM (fun cell => (edgeKind.readNodes s.mem.size s.mem cell.2).map fun edges =>
      ({ cell.1 with edges := edges } : GraphNode D)) = some (L.nodes.map nodeRecord) := by
    apply mapM_map
    intro n hn
    obtain ⟨before, after, hsplit⟩ := List.append_of_mem hn
    have hpos : 0 < L.capacity := Nat.lt_of_lt_of_le (List.length_pos_of_mem hn) h.room
    obtain ⟨q, hq, -, -⟩ := h.array_eq hpos
    have howns := (h.owns_node hq (show L.nodes = before ++ (n.1, n.2) :: after from hsplit)).of_eq
      (add_left_comm _ _ _)
    show (edgeKind.readNodes s.mem.size s.mem (start n.2 none)).map _ = _
    rw [howns.readNodes howns.length_le]
    rfl
  rw [hnodes]
  rfl

/-- The records of a store, read along its pointers. -/
theorem Laid.read (h : Laid rest s L) : readAppData s = some L.data := by
  unfold readAppData
  have hstops := h.readList stopRecords
  have hstations := h.readList stationRecords
  have hdistances := h.readList subwayDistanceRecords
  have hfacilities := h.readList facilityRecords
  have harrivals := h.readList arrivalRecords
  have hcrowdings := h.readList crowdingRecords
  dsimp only [stopRecords, stationRecords, subwayDistanceRecords, facilityRecords, arrivalRecords, crowdingRecords] at *
  rw [hstops, Option.bind_some, h.readRoutes, Option.bind_some, hstations, Option.bind_some, hdistances,
    Option.bind_some, hfacilities, Option.bind_some, harrivals, Option.bind_some, hcrowdings, Option.bind_some,
    h.readGraph]
  rfl

/-! ## Freeing -/

theorem freeRecords_eq {α : Type} {kind : NodeKind (Block D) α} {mem : Memory (Block D)} {l : List (Addr × α)}
    {m : Blocks (Block D)} (h : mem.Owns (kind.segment l none + m)) :
    ∃ mem', freeRecords kind mem (start l none) = some mem' ∧ mem'.Owns m :=
  h.freeList h.length_le

/-- The edges of the first nodes are freed. -/
theorem freeEdges_range {mem : Memory (Block D)} {q : Addr} {nodes : List (GraphNode D × List (Addr × GraphEdge))}
    {zeroed : Nat} {m : Blocks (Block D)}
    (h : mem.Owns (cell q (.nodes (nodes.map nodeValue) zeroed) + ((nodes.map edgeBlocks).sum + m))) (k : Nat)
    (hk : k ≤ nodes.length) :
    ∃ mem', (List.range k).foldlM (freeEdges (some q)) mem = some mem' ∧
      mem'.Owns (cell q (.nodes (nodes.map nodeValue) zeroed) + (((nodes.drop k).map edgeBlocks).sum + m)) := by
  induction k with
  | zero => exact ⟨mem, rfl, h⟩
  | succ k ih =>
    obtain ⟨mem₁, hrun, hmem₁⟩ := ih (by omega)
    have hlt : k < nodes.length := hk
    have hedges : mem₁.Owns (edgeKind.segment nodes[k].2 none +
        (cell q (.nodes (nodes.map nodeValue) zeroed) + (((nodes.drop (k + 1)).map edgeBlocks).sum + m))) := by
      refine hmem₁.of_eq ?_
      rw [List.drop_eq_getElem_cons hlt, List.map_cons, List.sum_cons]
      show _ + (edgeKind.segment nodes[k].2 none + _ + m) = _
      rw [add_assoc, add_left_comm]
    obtain ⟨mem₂, hfree, hmem₂⟩ := freeRecords_eq hedges
    refine ⟨mem₂, ?_, hmem₂⟩
    rw [List.range_succ, List.foldlM_append, hrun]
    show (freeEdges (some q) mem₁ k).bind _ = _
    unfold freeEdges
    rw [readCells_eq hmem₁, Option.bind_some]
    show (((nodes.map nodeValue)[k]?).bind _).bind _ = _
    rw [List.getElem?_map, List.getElem?_eq_getElem hlt]
    show (freeRecords edgeKind mem₁ (start nodes[k].2 none)).bind _ = _
    rw [hfree]
    rfl

/-- The blocks of the graph are freed. -/
theorem graphFree_eq {m : Blocks (Block D)} (hnodes : s.nodes = L.array) (hcount : s.nodeCount = L.nodes.length)
    (hnull : L.array = none → L.nodes = [])
    (h : s.mem.Owns ((L.nodes.map edgeBlocks).sum + arrayBlock L.nodes L.capacity L.array + m)) :
    ∃ mem, graphFreeMem s = some { s with mem := mem, nodes := none, nodeCount := 0, capacity := 0 } ∧ mem.Owns m := by
  unfold graphFreeMem
  rw [hnodes, hcount]
  cases harray : L.array with
  | none =>
    rw [hnull harray, harray] at h
    rw [hnull harray]
    exact ⟨s.mem, rfl, h.of_eq (by show 0 + 0 + m = m; simp)⟩
  | some q =>
    rw [harray] at h
    obtain ⟨mem₁, hrun, hmem₁⟩ := freeEdges_range
      (h.of_eq (show _ = cell q _ + ((L.nodes.map edgeBlocks).sum + m) by
        rw [add_comm (L.nodes.map edgeBlocks).sum, add_assoc]; rfl))
      L.nodes.length (Nat.le_refl _)
    rw [List.drop_length] at hmem₁
    obtain ⟨mem₂, hfree, hmem₂⟩ := hmem₁.free
    refine ⟨mem₂, ?_, hmem₂.of_eq (zero_add m)⟩
    rw [hrun, Option.bind_some, hfree]
    rfl

/-- The routes are freed with their stops. -/
theorem freeRoutes_eq {mem : Memory (Block D)} {routes : List (Addr × RouteNode × List (Addr × RouteStopNode))}
    {m : Blocks (Block D)} (h : mem.Owns (routeBlocks routes + m)) :
    ∃ mem', routeKind.freeNodes (fun mem route => freeRouteStops mem route.2) mem.size mem
        (start (routes.map fun r => (r.1, routeValue r)) none) = some mem' ∧ mem'.Owns m := by
  apply @Memory.Owns.freeNodes (Block D) (RouteNode × Ptr) routeKind mem m mem.size _ routes Prod.fst routeValue
    stopBlocks
  · exact fun r _ mem m hr => freeRecords_eq hr
  · exact h
  · rw [← List.length_map (fun r => (r.1, routeValue r))]
    exact (h.of_eq (add_assoc _ _ _)).length_le

/-- `app_data_free` gives back the blocks of the store, each once, and no others. -/
theorem Laid.free (h : Laid rest s L) :
    ∃ mem, appDataFreeMem s = some (appDataInitMem mem) ∧ mem.heap = rest := by
  have hblocks := h.owns
  unfold Layout.blocks at hblocks
  obtain ⟨mem₁, hfree₁, hmem₁⟩ := freeRecords_eq (hblocks.of_eq (add_assoc _ _ _))
  obtain ⟨mem₂, hfree₂, hmem₂⟩ := freeRoutes_eq (hmem₁.of_eq (add_assoc _ _ _))
  obtain ⟨mem₃, hfree₃, hmem₃⟩ := freeRecords_eq (hmem₂.of_eq (add_assoc _ _ _))
  obtain ⟨mem₄, hfree₄, hmem₄⟩ := freeRecords_eq (hmem₃.of_eq (add_assoc _ _ _))
  obtain ⟨mem₅, hfree₅, hmem₅⟩ := freeRecords_eq (hmem₄.of_eq (add_assoc _ _ _))
  obtain ⟨mem₆, hfree₆, hmem₆⟩ := freeRecords_eq (hmem₅.of_eq (add_assoc _ _ _))
  obtain ⟨mem₇, hfree₇, hmem₇⟩ := freeRecords_eq (hmem₆.of_eq (add_assoc _ _ _))
  have hnull : L.array = none → L.nodes = [] := fun hnone =>
    List.eq_nil_of_length_eq_zero (Nat.le_zero.mp (Nat.le_trans h.room (Nat.le_of_eq (h.array.mp hnone))))
  obtain ⟨mem, hgraph, hmem⟩ := @graphFree_eq D { appDataInitMem mem₇ with
    nodes := s.nodes, nodeCount := s.nodeCount, capacity := s.capacity } L _ h.nodes h.nodeCount hnull hmem₇
  refine ⟨mem, ?_, hmem.heap_eq rfl⟩
  unfold appDataFreeMem
  rw [h.stops, hfree₁, Option.bind_some, h.routes, hfree₂, Option.bind_some, h.stations, hfree₃, Option.bind_some,
    h.subwayDistances, hfree₄, Option.bind_some, h.facilities, hfree₅, Option.bind_some, h.arrivals, hfree₆,
    Option.bind_some, h.crowdings, hfree₇, Option.bind_some]
  exact hgraph

/-! ## Calls -/

/-- A call that changes the store. -/
inductive StoreCall (D : Type) where
  | stopAdd (value : StopNode D)
  | routeAdd (value : RouteNode)
  | routeStopAdd (routeNo : Str) (value : RouteStopNode)
  | stationAdd (value : StationNode D)
  | subwayDistanceAdd (value : SubwayDistanceNode D)
  | facilityAdd (value : FacilityNode D)
  | arrivalAdd (value : ArrivalNode)
  | crowdingAdd (value : CrowdingNode)
  | graphAddNode (nodeId nodeName nodeType : Str) (lat lng : D)
  | graphAddEdge (fromIndex toIndex weightMin : Int) (routeNo : Str)

/-- The call in the memory. A stop is added to the route that `find_route_by_no` finds. -/
def runStoreCallMem (alloc : Allocator (Block D)) (s : AppDataMem D) : StoreCall D → Option (AppDataMem D)
  | .stopAdd value => some (stopAddMem alloc s value)
  | .routeAdd value => some (routeAddMem alloc s value)
  | .routeStopAdd routeNo value =>
    (findRouteByNoMem s routeNo).bind fun route => routeStopAddMem alloc s route value
  | .stationAdd value => some (stationAddMem alloc s value)
  | .subwayDistanceAdd value => some (subwayDistanceAddMem alloc s value)
  | .facilityAdd value => some (facilityAddMem alloc s value)
  | .arrivalAdd value => some (arrivalAddMem alloc s value)
  | .crowdingAdd value => some (crowdingAddMem alloc s value)
  | .graphAddNode nodeId nodeName nodeType lat lng =>
    (graphAddNodeMem alloc s nodeId nodeName nodeType lat lng).map Prod.fst
  | .graphAddEdge fromIndex toIndex weightMin routeNo =>
    (graphAddEdgeMem alloc s fromIndex toIndex weightMin routeNo).map Prod.fst

/-- The call on lists; `ok` says whether its allocation succeeds. -/
def runStoreCall (data : AppData D) (ok : Bool) : StoreCall D → AppData D
  | .stopAdd value => if ok then stopAdd data value else data
  | .routeAdd value => if ok then routeAdd data value else data
  | .routeStopAdd routeNo value => if ok then { data with routes := addToRoute routeNo value data.routes } else data
  | .stationAdd value => if ok then stationAdd data value else data
  | .subwayDistanceAdd value => if ok then subwayDistanceAdd data value else data
  | .facilityAdd value => if ok then facilityAdd data value else data
  | .arrivalAdd value => if ok then arrivalAdd data value else data
  | .crowdingAdd value => if ok then crowdingAdd data value else data
  | .graphAddNode nodeId nodeName nodeType lat lng =>
    { data with graph := (graphAddNode ok data.graph nodeId nodeName nodeType lat lng).1 }
  | .graphAddEdge fromIndex toIndex weightMin routeNo =>
    { data with graph := (graphAddEdge ok data.graph fromIndex toIndex weightMin routeNo).1 }

/-- What one call does. -/
theorem Laid.runMem (h : Laid rest s L) (alloc : Allocator (Block D)) (call : StoreCall D) :
    KeepsLaid alloc rest (runStoreCallMem alloc s call) fun ok => runStoreCall L.data ok call := by
  cases call with
  | stopAdd value => exact h.recordAdd stopRecords value
  | routeAdd value => exact h.routeAdd value
  | routeStopAdd routeNo value => exact h.routeStopAdd routeNo value
  | stationAdd value => exact h.recordAdd stationRecords value
  | subwayDistanceAdd value => exact h.recordAdd subwayDistanceRecords value
  | facilityAdd value => exact h.recordAdd facilityRecords value
  | arrivalAdd value => exact h.recordAdd arrivalRecords value
  | crowdingAdd value => exact h.recordAdd crowdingRecords value
  | graphAddNode nodeId nodeName nodeType lat lng => exact h.graphAddNode alloc nodeId nodeName nodeType lat lng
  | graphAddEdge fromIndex toIndex weightMin routeNo => exact h.graphAddEdge alloc fromIndex toIndex weightMin routeNo

/-- Calls one after the other, and which of their allocations succeed. -/
def runStore (data : AppData D) (calls : List (StoreCall D × Bool)) : AppData D :=
  calls.foldl (fun data call => runStoreCall data call.2 call.1) data

/-- What any calls do. -/
theorem Laid.runCalls (h : Laid rest s L) (alloc : Allocator (Block D)) (calls : List (StoreCall D)) :
    ∃ s' L' oks, calls.foldlM (runStoreCallMem alloc) s = some s' ∧ Laid rest s' L' ∧ oks.length = calls.length ∧
      L'.data = runStore L.data (calls.zip oks) ∧ (alloc.Total → ∀ ok ∈ oks, ok = true) := by
  induction calls generalizing s L with
  | nil => exact ⟨s, L, [], rfl, h, rfl, rfl, fun _ _ hok => absurd hok List.not_mem_nil⟩
  | cons call calls ih =>
    obtain ⟨s₁, L₁, ok, hcall, hlaid₁, hdata₁, htotal₁⟩ := h.runMem alloc call
    obtain ⟨s', L', oks, hcalls, hlaid, hlen, hdata, htotal⟩ := ih hlaid₁
    refine ⟨s', L', ok :: oks, ?_, hlaid, congrArg (· + 1) hlen, ?_, fun ht => ?_⟩
    · rw [List.foldlM_cons, hcall]
      exact hcalls
    · rw [hdata, hdata₁]
      rfl
    · exact List.forall_mem_cons.mpr ⟨htotal₁ ht, htotal ht⟩

/-- Any calls, with any allocator and beside any other blocks: no access goes
wrong, the pointers lead to the records that the same calls put into lists, and
`app_data_free` leaves the other blocks and nothing else. -/
theorem storeCalls_memory (alloc : Allocator (Block D)) (rest : Heap (Block D)) (calls : List (StoreCall D)) :
    ∃ s oks, calls.foldlM (runStoreCallMem alloc) (appDataInitMem ⟨rest, 0⟩) = some s ∧
      oks.length = calls.length ∧ (alloc.Total → ∀ ok ∈ oks, ok = true) ∧
      readAppData s = some (runStore appDataInit (calls.zip oks)) ∧
      ∃ mem, appDataFreeMem s = some (appDataInitMem mem) ∧ mem.heap = rest := by
  obtain ⟨s, L, oks, hcalls, hlaid, hlen, hdata, htotal⟩ := (laid_init rest).runCalls alloc calls
  refine ⟨s, oks, hcalls, hlen, htotal, ?_, hlaid.free⟩
  rw [hlaid.read, hdata]
  rfl

end Transit
