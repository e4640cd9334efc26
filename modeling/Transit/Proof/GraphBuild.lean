import Mathlib.Data.Int.ConditionallyCompleteOrder
import Mathlib.Data.List.MinMax
import Mathlib.Order.ConditionallyCompleteLattice.Basic
import Transit.Proof.GraphInvariant
import Transit.Proof.LoadedText
import Transit.Proof.SharedLines

/-!
# `data_loader_build_graph` keeps the least contribution of every pair

`contributions` lists, in the order of the loops, what the four rules of the
loader say about pairs of nodes, where a line that two stations share counts if
it stands in front of every blank entry (`leadingLine`);
`dataLoaderBuildGraph_graph` shows that the graph comes from adding them one by
one, and `Merged` is what every prefix of them establishes: the edge between two
nodes is the first of the least of the contributions to them.

* `dataLoaderLoad_minMerge`: the graph loaded is the minimum-merge of the
  contributions of the records loaded.
-/

namespace Transit

variable {D : Type}

/-- A link between two nodes that a rule of the loader asks for. -/
structure Contribution where
  fromId : Str
  toId : Str
  weight : Int
  label : Str

/-- It links these two nodes, in either order. -/
def Contribution.joins (c : Contribution) (x y : Str) : Bool :=
  (c.fromId == x && c.toId == y) || (c.fromId == y && c.toId == x)

/-- The ids of the nodes, in order. -/
def TransferGraph.ids (g : TransferGraph D) : List Str := g.nodes.map (·.nodeId.val)

/-- Rule (a): the neighbours in the stop list of a route. -/
def routeContributions (route : RouteNode) : List Contribution :=
  List.zipWith (fun prev cur => ⟨prev.stopId, cur.stopId, 5, route.routeNo⟩) route.stops
    route.stops.tail

section

variable [CDouble D]

/-- Rule (b): a row of the subway distances. -/
def distanceContribution (distance : SubwayDistanceNode D) : Contribution where
  fromId := distance.fromStationId
  toId := distance.toStationId
  weight :=
    if distance.estimatedMinutes > 0 then distance.estimatedMinutes
    else subwayMinutesFromDistance distance.distanceKm
  label := if strIsBlank distance.lineNo then utf8 "SUBWAY" else distance.lineNo

end

/-- Two stations that share a line. -/
def stationLink (shared : Str → Str → Option Str) (station other : StationNode D) : Option Contribution :=
  (shared station.lineNo other.lineNo).map fun line => ⟨station.stationId, other.stationId, 8, line⟩

/-- Rule (c): the stations behind one of them that share a line with it. -/
def sharedLineContributions (shared : Str → Str → Option Str) : List (StationNode D) → List Contribution
  | [] => []
  | station :: rest => rest.filterMap (stationLink shared station) ++ sharedLineContributions shared rest

section

variable [CDouble D]

/-- The distance the loader compares. -/
def stopDistance (stop : StopNode D) (station : StationNode D) : D :=
  distanceSqKm stop.lat stop.lng station.lat station.lng

/-- The stations whose coordinates are known. -/
def locatedStations (stations : List (StationNode D)) : List (StationNode D) :=
  stations.filter fun station => hasCoordinates station.lat station.lng

/-- The stations within three kilometres. -/
def nearStations (stop : StopNode D) (stations : List (StationNode D)) : List (StationNode D) :=
  (locatedStations stations).filter fun station =>
    CDouble.le (stopDistance stop station) (CDouble.lit 9 0)

/-- A station nearer than the best one so far. -/
def nearerStation (stop : StopNode D) (best : D × Option (StationNode D)) (station : StationNode D) :
    D × Option (StationNode D) :=
  if CDouble.lt (stopDistance stop station) best.1 then (stopDistance stop station, some station)
  else best

/-- The first station nearer than all before it, and its distance. -/
def nearestStation (stop : StopNode D) (stations : List (StationNode D)) : D × Option (StationNode D) :=
  (locatedStations stations).foldl (nearerStation stop) (CDouble.lit 999999 0, none)

/-- A link of the transfer rule. -/
def transferContribution (stop : StopNode D) (station : StationNode D) (distance : D) : Contribution :=
  ⟨stop.stopId, station.stationId, transferMinutesFromDistance distance, utf8 "TRANSFER"⟩

/-- Rule (d): the stations within three kilometres of a stop, or else the nearest one. -/
def stopContributions (stations : List (StationNode D)) (stop : StopNode D) : List Contribution :=
  if !hasCoordinates stop.lat stop.lng then []
  else if nearStations stop stations ≠ [] then
    (nearStations stop stations).map fun station =>
      transferContribution stop station (stopDistance stop station)
  else
    match nearestStation stop stations with
    | (distance, some station) => [transferContribution stop station distance]
    | (_, none) => []

/-- The ids of all stops and stations. -/
def recordIds (data : AppData D) : List Str :=
  data.stops.map (·.stopId.val) ++ data.stations.map (·.stationId.val)

/-- A row of the subway distances with both end nodes. -/
def distanceUsed (data : AppData D) (distance : SubwayDistanceNode D) : Bool :=
  (recordIds data).contains distance.fromStationId.val &&
    (recordIds data).contains distance.toStationId.val

/-- What all rules contribute, in processing order. -/
def contributionsBy (shared : Str → Str → Option Str) (data : AppData D) : List Contribution :=
  data.routes.flatMap routeContributions ++
  data.subwayDistances.map distanceContribution ++
  (if data.subwayDistances.any (distanceUsed data) then [] else sharedLineContributions shared data.stations) ++
  data.stops.flatMap (stopContributions data.stations)

/-- What the loops add. -/
def contributions (data : AppData D) : List Contribution := contributionsBy leadingLine data

end

/-- The graph has the ids of the records and is the minimum-merge of `cs`. -/
structure MinMerge [CDouble D] (data : AppData D) (cs : List Contribution) (g : TransferGraph D) : Prop where
  ids_nodup : g.ids.Nodup
  mem_ids : ∀ id, id ∈ g.ids ↔
    (∃ s ∈ data.stops, s.stopId.val = id) ∨ ∃ s ∈ data.stations, s.stationId.val = id
  edge_iff : ∀ {u v x y}, u ≠ v → g.ids[u]? = some x → g.ids[v]? = some y →
    ((∃ e ∈ g.edgesAt u, e.toIndex = v) ↔ ∃ c ∈ cs, c.joins x y)
  edge_unique : ∀ u, ((g.edgesAt u).map (·.toIndex)).Nodup
  edge_least : ∀ {u v x y}, u ≠ v → g.ids[u]? = some x → g.ids[v]? = some y →
    ∀ e ∈ g.edgesAt u, e.toIndex = v →
      ∃ c, (cs.filter (·.joins x y)).argmin (·.weight) = some c ∧
        e.weightMin = c.weight ∧ e.routeNo.val = c.label
  symmetric : ∀ u, ∀ e ∈ g.edgesAt u, ∃ e' ∈ g.edgesAt e.toIndex,
    e'.toIndex = u ∧ e'.weightMin = e.weightMin ∧ e'.routeNo = e.routeNo

/-! ## Nodes -/

theorem graphFindNode_eq (g : TransferGraph D) (x : Str) :
    graphFindNode g x = match g.ids.findIdx? (· == x) with
      | some i => (i : Int)
      | none => -1 := by
  simp only [graphFindNode, TransferGraph.ids, List.findIdx?_map]
  rfl

theorem graphFindNode_neg {g : TransferGraph D} {x : Str} : graphFindNode g x < 0 ↔ x ∉ g.ids := by
  rw [graphFindNode_eq]
  cases h : g.ids.findIdx? (· == x) with
  | none =>
    simp only [List.findIdx?_eq_none_iff, beq_eq_false_iff_ne] at h
    simpa using fun hx => h x hx rfl
  | some i =>
    simp only [Int.not_lt.mpr (Int.natCast_nonneg i), false_iff, not_not]
    obtain ⟨hi, hx, -⟩ := List.findIdx?_eq_some_iff_getElem.mp h
    rw [← beq_iff_eq.mp hx]
    exact List.getElem_mem hi

theorem graphFindNode_of_getElem? {g : TransferGraph D} (hd : g.ids.Nodup) {x : Str} {i : Nat}
    (h : g.ids[i]? = some x) : graphFindNode g x = i := by
  obtain ⟨hi, rfl⟩ := List.getElem?_eq_some_iff.mp h
  have hfind : g.ids.findIdx? (· == g.ids[i]) = some i := by
    refine List.findIdx?_eq_some_iff_getElem.mpr ⟨hi, by simp, fun j hj => ?_⟩
    simp only [Bool.not_eq_true, beq_eq_false_iff_ne, ne_eq]
    exact fun he => absurd (hd.getElem_inj_iff.mp he) (by omega)
  rw [graphFindNode_eq, hfind]

@[simp] theorem ids_length (g : TransferGraph D) : g.ids.length = g.nodeCount := by
  simp [TransferGraph.ids, TransferGraph.nodeCount]

@[simp] theorem ids_modifyEdges (g : TransferGraph D) (i : Nat)
    (f : List GraphEdge → List GraphEdge) : (g.modifyEdges i f).ids = g.ids := by
  simp only [TransferGraph.ids, TransferGraph.modifyEdges]
  refine List.ext_getElem? fun j => ?_
  simp only [List.getElem?_map, List.getElem?_modify]
  split <;> cases g.nodes[j]? <;> rfl

/-- Adding a node that a record names. -/
theorem graphAddNode_ids {g : TransferGraph D} {x nodeName nodeType : Str} {lat lng : D}
    (hx : x.length ≤ maxIdLen - 1) :
    (graphAddNode true g x nodeName nodeType lat lng).1.ids =
      if x ∈ g.ids then g.ids else g.ids ++ [x] := by
  split
  · rename_i hmem
    have hf : graphFindNode g x ≥ 0 := Int.not_lt.mp fun h => graphFindNode_neg.mp h hmem
    simp only [graphAddNode, hf, ↓reduceIte]
  · rename_i hmem
    have hf : ¬ graphFindNode g x ≥ 0 := Int.not_le.mpr (graphFindNode_neg.mpr hmem)
    simp only [graphAddNode, hf, ↓reduceIte]
    cases hr : graphReserve true g (g.nodeCount + 1) with
    | none => simp [graphReserve] at hr; split at hr <;> cases hr
    | some g' =>
      simp only [TransferGraph.ids, (graphReserve_spec hr).1, List.map_append, List.map_cons,
        List.map_nil, CStr.copy_of_le hx]

/-! ## Edges -/

/-- What an edge carries, apart from where it leads. -/
def edgeKey (e : GraphEdge) : Int × Str := (e.weightMin, e.routeNo)

def Contribution.key (c : Contribution) : Int × Str := (c.weight, c.label)

/-- A smaller weight replaces what is there. -/
def mergeKey : Option (Int × Str) → Int × Str → Int × Str
  | none, k => k
  | some k', k => if k.1 < k'.1 then k else k'

theorem find?_improveEdge {j : Nat} {w : Int} {r : Str} (hw : 0 < w) (hr : r.length ≤ maxRouteLen - 1)
    (es : List GraphEdge) (v : Nat) :
    ((improveEdge j w r es).find? (·.toIndex == v)).map edgeKey =
      if v = j then ((es.find? (·.toIndex == j)).map edgeKey).map fun k => mergeKey (some k) (w, r)
      else (es.find? (·.toIndex == v)).map edgeKey := by
  induction es with
  | nil => simp [improveEdge]
  | cons e es ih =>
    simp only [improveEdge]
    by_cases hej : e.toIndex = j
    · subst hej
      by_cases hv : v = e.toIndex
      · subst hv
        by_cases hlt : w < e.weightMin
        · simp [hw, hlt, edgeKey, mergeKey, CStr.copy_of_le hr]
        · simp [hlt, edgeKey, mergeKey]
      · simp only [↓reduceIte, hv]
        split
        · rw [List.find?_cons_of_neg (by simp [Ne.symm hv]), List.find?_cons_of_neg (by simp [Ne.symm hv])]
        · rw [List.find?_cons_of_neg (by simp [Ne.symm hv])]
    · simp only [hej, ↓reduceIte]
      by_cases hev : e.toIndex = v
      · subst hev
        simp [hej]
      · rw [List.find?_cons_of_neg (by simpa using hev), ih, List.find?_cons_of_neg (by simpa using hej),
          List.find?_cons_of_neg (by simpa using hev)]

theorem find?_addEdge {j : Nat} {w : Int} {r : Str} (hw : 0 < w) (hr : r.length ≤ maxRouteLen - 1)
    (es : List GraphEdge) (v : Nat) :
    ((addEdge j w r es).find? (·.toIndex == v)).map edgeKey =
      if v = j then some (mergeKey ((es.find? (·.toIndex == j)).map edgeKey) (w, r))
      else (es.find? (·.toIndex == v)).map edgeKey := by
  simp only [Transit.addEdge]
  cases hf : es.find? (·.toIndex == j) with
  | none =>
    have hany : es.any (·.toIndex == j) = false := by
      simpa [List.find?_eq_none] using hf
    simp only [hany, Bool.false_eq_true, ↓reduceIte]
    by_cases hv : v = j
    · subst hv
      simp [edgeKey, mergeKey, hw, CStr.copy_of_le hr]
    · rw [List.find?_cons_of_neg (by simp [Ne.symm hv])]
      simp [hv]
  | some e =>
    have hto : (e.toIndex == j) = true := by simpa using List.find?_some hf
    have hany : es.any (·.toIndex == j) = true :=
      List.any_eq_true.mpr ⟨e, List.mem_of_find?_eq_some hf, hto⟩
    simp only [hany, ↓reduceIte]
    rw [find?_improveEdge hw hr, hf]
    rfl

/-- The edge from `u` to `v` after an edge from `i` to `j` has been added. -/
theorem graphFindEdge_graphAddEdge {g : TransferGraph D} {i j : Nat} (hi : i < g.nodeCount)
    (hj : j < g.nodeCount) (hij : i ≠ j) {w : Int} {r : Str} (hw : 0 < w)
    (hr : r.length ≤ maxRouteLen - 1) (u v : Nat) :
    (graphFindEdge (graphAddEdge true g i j w r).1 u v).map edgeKey =
      if u = i ∧ v = j then some (mergeKey ((graphFindEdge g i j).map edgeKey) (w, r))
      else (graphFindEdge g u v).map edgeKey := by
  have hrange : ¬ ((i : Int) < 0 ∨ (j : Int) < 0 ∨ (i : Int) ≥ g.nodeCount ∨ (j : Int) ≥ g.nodeCount) := by
    omega
  have hne : (i : Int) ≠ j := by omega
  simp only [graphAddEdge, hrange, hne, ↓reduceIte, Bool.not_true, Bool.false_and, Bool.false_eq_true,
    Int.toNat_natCast, graphFindEdge, edgesAt_modifyEdges hi]
  by_cases hu : u = i
  · subst hu
    simp only [↓reduceIte, true_and]
    rw [find?_addEdge hw hr]
  · simp [hu]

theorem graphAddEdge_nodes (mem : Bool) (g : TransferGraph D) (a b w : Int) (r : Str) :
    (graphAddEdge mem g a b w r).1.ids = g.ids := by
  rcases graphAddEdge_cases mem g a b w r with h | ⟨i, j, -, -, -, -, -, h⟩
  · rw [h]
  · rw [h, ids_modifyEdges]

theorem nodeCount_of_ids {g g' : TransferGraph D} (h : g'.ids = g.ids) : g'.nodeCount = g.nodeCount := by
  rw [← ids_length, ← ids_length, h]

theorem graphAddBoth_ids (g : TransferGraph D) (a b w : Int) (r : Str) :
    (graphAddBoth g a b w r).ids = g.ids := by
  rw [graphAddBoth, graphAddEdge_nodes, graphAddEdge_nodes]

/-- Both edges between two nodes are merged. -/
theorem graphFindEdge_graphAddBoth {g : TransferGraph D} {i j : Nat} (hi : i < g.nodeCount)
    (hj : j < g.nodeCount) (hij : i ≠ j) {w : Int} {r : Str} (hw : 0 < w)
    (hr : r.length ≤ maxRouteLen - 1) (u v : Nat) :
    (graphFindEdge (graphAddBoth g i j w r) u v).map edgeKey =
      if (u = i ∧ v = j) ∨ (u = j ∧ v = i) then
        some (mergeKey ((graphFindEdge g u v).map edgeKey) (w, r))
      else (graphFindEdge g u v).map edgeKey := by
  have hcount := nodeCount_of_ids (graphAddEdge_nodes true g i j w r)
  rw [graphAddBoth, graphFindEdge_graphAddEdge (by rwa [hcount]) (by rwa [hcount]) (Ne.symm hij) hw hr,
    graphFindEdge_graphAddEdge hi hj hij hw hr, graphFindEdge_graphAddEdge hi hj hij hw hr]
  by_cases h1 : u = i ∧ v = j
  · obtain ⟨rfl, rfl⟩ := h1
    simp [hij]
  · by_cases h2 : u = j ∧ v = i
    · obtain ⟨rfl, rfl⟩ := h2
      simp [Ne.symm hij]
    · simp [h1, h2]

theorem graphAddBoth_neg {g : TransferGraph D} {a b w : Int} {r : Str} (h : a < 0 ∨ b < 0) :
    graphAddBoth g a b w r = g := by
  have h1 : ∀ (g : TransferGraph D), (graphAddEdge true g a b w r).1 = g := by
    intro g; simp only [graphAddEdge]; rw [if_pos (by omega)]
  have h2 : ∀ (g : TransferGraph D), (graphAddEdge true g b a w r).1 = g := by
    intro g; simp only [graphAddEdge]; rw [if_pos (by omega)]
  rw [graphAddBoth, h1, h2]

theorem graphAddBoth_self (g : TransferGraph D) (a w : Int) (r : Str) : graphAddBoth g a a w r = g := by
  have h : ∀ (g : TransferGraph D), (graphAddEdge true g a a w r).1 = g := by
    intro g; simp only [graphAddEdge]; split <;> simp
  rw [graphAddBoth, h, h]

theorem GraphOk.graphAddBoth {g : TransferGraph D} (h : GraphOk g) (a b w : Int) (r : Str) :
    GraphOk (graphAddBoth g a b w r) :=
  (h.runCall (.addEdge true a b w r)).runCall (.addEdge true b a w r)

/-! ## Merging -/

def addContribution (g : TransferGraph D) (c : Contribution) : TransferGraph D :=
  graphAddBoth g (graphFindNode g c.fromId) (graphFindNode g c.toId) c.weight c.label

/-- Contributions that an edge can carry. -/
structure Contribution.Valid (c : Contribution) : Prop where
  weight : 0 < c.weight
  label : c.label.length ≤ maxRouteLen - 1

/-- The edges of `g` are the first least ones of `cs`. -/
structure Merged (g : TransferGraph D) (cs : List Contribution) : Prop where
  ok : GraphOk g
  ids : g.ids.Nodup
  edge : ∀ {u v x y}, u ≠ v → g.ids[u]? = some x → g.ids[v]? = some y →
    (graphFindEdge g u v).map edgeKey = ((cs.filter (·.joins x y)).argmin (·.weight)).map (·.key)

theorem joins_iff {c : Contribution} {x y : Str} :
    c.joins x y = true ↔ (c.fromId = x ∧ c.toId = y) ∨ (c.fromId = y ∧ c.toId = x) := by
  simp [Contribution.joins]

theorem argmin_append_key (cs : List Contribution) (c : Contribution) :
    ((cs ++ [c]).argmin (·.weight)).map (·.key) =
      some (mergeKey ((cs.argmin (·.weight)).map (·.key)) c.key) := by
  rw [List.argmin_concat]
  cases cs.argmin (·.weight) with
  | none => rfl
  | some b =>
    simp only [Option.map_some, mergeKey, Contribution.key]
    split <;> simp

theorem addContribution_ids (g : TransferGraph D) (c : Contribution) :
    (addContribution g c).ids = g.ids := graphAddBoth_ids ..

/-- A contribution between no two nodes of the graph changes nothing. -/
theorem Merged.skip {g : TransferGraph D} {cs : List Contribution} (h : Merged g cs)
    {c : Contribution} (hc : ∀ {u v : Nat} {x y : Str}, u ≠ v → g.ids[u]? = some x →
      g.ids[v]? = some y → c.joins x y = false) : Merged g (cs ++ [c]) where
  ok := h.ok
  ids := h.ids
  edge huv hx hy := by
    rw [h.edge huv hx hy, List.filter_append, List.filter_cons_of_neg (by simp [hc huv hx hy])]
    simp

/-- An id stands at one place only. -/
theorem index_unique {ids : List Str} (hids : ids.Nodup) {i j : Nat} {x : Str} (hi : ids[i]? = some x)
    (hj : ids[j]? = some x) : i = j :=
  (List.getElem?_inj (List.getElem?_eq_some_iff.mp hi).1 hids).mp (hi.trans hj.symm)

/-- In a list without duplicates, a contribution joins what stands at the places of its two ids. -/
theorem joins_at_iff {ids : List Str} (hids : ids.Nodup) {c : Contribution} {i j u v : Nat} {x y : Str}
    (hi : ids[i]? = some c.fromId) (hj : ids[j]? = some c.toId) (hx : ids[u]? = some x) (hy : ids[v]? = some y) :
    c.joins x y = true ↔ (u = i ∧ v = j) ∨ (u = j ∧ v = i) := by
  rw [joins_iff]
  constructor
  · rintro (⟨rfl, rfl⟩ | ⟨rfl, rfl⟩)
    · exact .inl ⟨index_unique hids hx hi, index_unique hids hy hj⟩
    · exact .inr ⟨index_unique hids hx hj, index_unique hids hy hi⟩
  · rintro (⟨rfl, rfl⟩ | ⟨rfl, rfl⟩)
    · exact .inl ⟨Option.some_inj.mp (hi.symm.trans hx), Option.some_inj.mp (hj.symm.trans hy)⟩
    · exact .inr ⟨Option.some_inj.mp (hi.symm.trans hy), Option.some_inj.mp (hj.symm.trans hx)⟩

theorem Merged.addContribution {g : TransferGraph D} {cs : List Contribution} (h : Merged g cs)
    {c : Contribution} (hc : c.Valid) : Merged (addContribution g c) (cs ++ [c]) := by
  have hmem : ∀ {u : Nat} {x : Str}, g.ids[u]? = some x → x ∈ g.ids := fun hx => List.mem_of_getElem? hx
  by_cases hnode : c.fromId ∈ g.ids ∧ c.toId ∈ g.ids
  · obtain ⟨i, hi⟩ := List.mem_iff_getElem?.mp hnode.1
    obtain ⟨j, hj⟩ := List.mem_iff_getElem?.mp hnode.2
    have hadd : Transit.addContribution g c = graphAddBoth g i j c.weight c.label := by
      rw [Transit.addContribution, graphFindNode_of_getElem? h.ids hi, graphFindNode_of_getElem? h.ids hj]
    by_cases hij : i = j
    · subst hij
      rw [hadd, graphAddBoth_self]
      refine h.skip fun huv hx hy => Bool.eq_false_iff.mpr fun hjoin => ?_
      rcases (joins_at_iff h.ids hi hj hx hy).mp hjoin with ⟨rfl, rfl⟩ | ⟨rfl, rfl⟩
      · exact huv rfl
      · exact huv rfl
    · have hlt : ∀ {u : Nat} {x : Str}, g.ids[u]? = some x → u < g.nodeCount := by
        intro u x hx
        obtain ⟨hu, -⟩ := List.getElem?_eq_some_iff.mp hx
        rwa [ids_length] at hu
      rw [hadd]
      refine ⟨h.ok.graphAddBoth .., ?_, fun {u v x y} huv hx hy => ?_⟩
      · rw [graphAddBoth_ids]; exact h.ids
      · rw [graphAddBoth_ids] at hx hy
        rw [graphFindEdge_graphAddBoth (hlt hi) (hlt hj) hij hc.weight hc.label, h.edge huv hx hy,
          List.filter_append]
        have hjoin := joins_at_iff h.ids hi hj hx hy
        by_cases hcj : c.joins x y = true
        · rw [if_pos (hjoin.mp hcj), List.filter_cons_of_pos (by exact hcj), List.filter_nil, argmin_append_key]
          rfl
        · rw [if_neg (fun hp => hcj (hjoin.mpr hp)), List.filter_cons_of_neg (by exact hcj)]
          simp
  · have hadd : Transit.addContribution g c = g := by
      refine graphAddBoth_neg ?_
      rw [graphFindNode_neg, graphFindNode_neg]
      tauto
    rw [hadd]
    refine h.skip fun huv hx hy => Bool.eq_false_iff.mpr fun hjoin => hnode ?_
    rcases joins_iff.mp hjoin with ⟨rfl, rfl⟩ | ⟨rfl, rfl⟩
    · exact ⟨hmem hx, hmem hy⟩
    · exact ⟨hmem hy, hmem hx⟩

/-- The contributions of a run, one after the other. -/
theorem Merged.foldl {g : TransferGraph D} (h : Merged g []) (cs : List Contribution)
    (hcs : ∀ c ∈ cs, c.Valid) : Merged (cs.foldl Transit.addContribution g) cs := by
  induction cs using List.reverseRecOn with
  | nil => exact h
  | append_singleton cs c ih =>
    rw [List.foldl_append]
    exact (ih fun c hc => hcs c (List.mem_append_left _ hc)).addContribution
      (hcs c (List.mem_append_right _ (List.mem_singleton_self c)))

/-! ## The loops of the loader -/

/-- What the two loops over the records leave. -/
structure NodesOf (g : TransferGraph D) (xs : List Str) : Prop where
  ok : GraphOk g
  noEdges : ∀ i, g.edgesAt i = []
  nodup : g.ids.Nodup
  mem : ∀ x, x ∈ g.ids ↔ x ∈ xs

theorem NodesOf.graphAddNode {g : TransferGraph D} {xs : List Str} (h : NodesOf g xs) {x : Str}
    (hx : x.length ≤ maxIdLen - 1) (nodeName nodeType : Str) (lat lng : D) :
    NodesOf (graphAddNode true g x nodeName nodeType lat lng).1 (xs ++ [x]) where
  ok := h.ok.runCall (.addNode true x nodeName nodeType lat lng)
  noEdges i := by
    rcases graphAddNode_cases true g x nodeName nodeType lat lng with he | ⟨he, -⟩
    · rw [he]; exact h.noEdges i
    · rw [edgesAt_of_append rfl he]; exact h.noEdges i
  nodup := by
    rw [graphAddNode_ids hx]
    split
    · exact h.nodup
    · rename_i hmem
      rw [← List.concat_eq_append]
      exact h.nodup.concat hmem
  mem y := by
    rw [graphAddNode_ids hx]
    split
    · rename_i hmem
      rw [h.mem, List.mem_append, List.mem_singleton]
      exact ⟨.inl, fun hy => hy.elim id fun hy => hy ▸ (h.mem x).mp hmem⟩
    · rw [List.mem_append, List.mem_append, h.mem]

theorem NodesOf.addNodes {α : Type} {add : TransferGraph D → α → TransferGraph D} {id : α → Str}
    (hadd : ∀ g xs a, NodesOf g xs → NodesOf (add g a) (xs ++ [id a])) (as : List α)
    {g : TransferGraph D} {xs : List Str} (h : NodesOf g xs) :
    NodesOf (as.foldl add g) (xs ++ as.map id) := by
  induction as generalizing g xs with
  | nil => simpa using h
  | cons a as ih => simpa using ih (hadd g xs a h)

/-- The graph before any edge is added. -/
def recordNodes (data : AppData D) : TransferGraph D :=
  data.stations.foldl addStationNode (data.stops.foldl addStopNode data.graph)

theorem nodesOf_recordNodes {data : AppData D} (h : data.graph = graphInit) :
    NodesOf (recordNodes data) (recordIds data) := by
  have hinit : NodesOf data.graph [] :=
    ⟨h ▸ graphOk_init, fun i => by rw [h]; exact edgesAt_of_le (Nat.zero_le i),
      by rw [h]; exact List.nodup_nil, by simp [h, graphInit, TransferGraph.ids]⟩
  have hstops := hinit.addNodes (fun g xs (s : StopNode D) hg =>
    hg.graphAddNode s.stopId.2 s.stopName (utf8 "bus_stop") s.lat s.lng) data.stops
  exact hstops.addNodes (fun g xs (s : StationNode D) hg =>
    hg.graphAddNode s.stationId.2 s.stationName (utf8 "subway_station") s.lat s.lng) data.stations

theorem linkRouteStops_eq (routeNo : CStr maxRouteLen) (stops : List RouteStopNode)
    (prev : RouteStopNode) (g : TransferGraph D) :
    linkRouteStops routeNo stops (some prev) g =
      (List.zipWith (fun prev cur => (⟨prev.stopId, cur.stopId, 5, routeNo⟩ : Contribution))
        (prev :: stops) stops).foldl addContribution g := by
  induction stops generalizing prev g with
  | nil => rfl
  | cons cur rest ih =>
    simp only [linkRouteStops, List.zipWith_cons_cons, List.foldl_cons]
    exact ih cur _

theorem linkRoute_eq (g : TransferGraph D) (route : RouteNode) :
    linkRoute g route = (routeContributions route).foldl addContribution g := by
  simp only [linkRoute, routeContributions]
  cases route.stops with
  | nil => rfl
  | cons cur rest =>
    simp only [linkRouteStops, List.tail_cons]
    exact linkRouteStops_eq _ rest cur g

theorem foldl_linkRoute (routes : List RouteNode) (g : TransferGraph D) :
    routes.foldl linkRoute g = (routes.flatMap routeContributions).foldl addContribution g := by
  rw [List.foldl_flatMap]
  simp only [← linkRoute_eq]

section

variable [CDouble D]

theorem linkDistance_eq (st : TransferGraph D × Nat) (distance : SubwayDistanceNode D) :
    linkDistance st distance =
      (addContribution st.1 (distanceContribution distance),
        if st.1.ids.contains distance.fromStationId.val && st.1.ids.contains distance.toStationId.val
        then st.2 + 1 else st.2) := by
  have hneg : (graphFindNode st.1 distance.fromStationId < 0 ∨
      graphFindNode st.1 distance.toStationId < 0) ↔
      ¬ (st.1.ids.contains distance.fromStationId.val && st.1.ids.contains distance.toStationId.val) = true := by
    simp only [graphFindNode_neg, Bool.and_eq_true, List.contains_iff_mem]
    tauto
  simp only [linkDistance]
  split
  · rename_i h
    have hskip : addContribution st.1 (distanceContribution distance) = st.1 := graphAddBoth_neg h
    rw [if_neg (hneg.mp h), hskip]
  · rename_i h
    rw [if_pos (not_not.mp (fun hc => h (hneg.mpr hc)))]
    rfl

theorem foldl_linkDistance (rows : List (SubwayDistanceNode D)) (g : TransferGraph D) (n : Nat) :
    (rows.foldl linkDistance (g, n)).1 = (rows.map distanceContribution).foldl addContribution g ∧
      ((rows.foldl linkDistance (g, n)).2 = 0 ↔ n = 0 ∧ rows.any (fun distance =>
        g.ids.contains distance.fromStationId.val && g.ids.contains distance.toStationId.val) = false) := by
  induction rows generalizing g n with
  | nil => simp
  | cons row rows ih =>
    simp only [List.foldl_cons, linkDistance_eq, List.map_cons, List.any_cons, Bool.or_eq_false_iff]
    obtain ⟨h1, h2⟩ := ih (addContribution g (distanceContribution row))
      (if g.ids.contains row.fromStationId.val && g.ids.contains row.toStationId.val then n + 1 else n)
    refine ⟨h1, h2.trans ?_⟩
    rw [addContribution_ids]
    cases g.ids.contains row.fromStationId.val && g.ids.contains row.toStationId.val <;> simp

end

theorem foldl_linkSharedLine (station : StationNode D) (rest : List (StationNode D))
    (g : TransferGraph D) :
    rest.foldl (linkSharedLine station) g =
      (rest.filterMap (stationLink leadingLine station)).foldl addContribution g := by
  induction rest generalizing g with
  | nil => rfl
  | cons other rest ih =>
    rw [List.foldl_cons, ih, List.filterMap_cons]
    simp only [linkSharedLine, stationLink, commonLineName_eq station.lineNo.2 other.lineNo.2]
    cases leadingLine station.lineNo other.lineNo <;> rfl

theorem linkSharedLines_eq (stations : List (StationNode D)) (g : TransferGraph D) :
    linkSharedLines stations g = (sharedLineContributions leadingLine stations).foldl addContribution g := by
  induction stations generalizing g with
  | nil => rfl
  | cons station rest ih =>
    rw [linkSharedLines, ih, sharedLineContributions, List.foldl_append, foldl_linkSharedLine]

section

variable [CDouble D]

/-- The loop over the stations for one stop. -/
theorem foldl_linkNearStation (stop : StopNode D) (stations : List (StationNode D)) (st : StopLinks D) :
    stations.foldl (linkNearStation stop) st =
      { graph := ((nearStations stop stations).map fun station =>
          transferContribution stop station (stopDistance stop station)).foldl addContribution st.graph
        nearestStation :=
          ((locatedStations stations).foldl (nearerStation stop) (st.nearestDistance, st.nearestStation)).2
        nearestDistance :=
          ((locatedStations stations).foldl (nearerStation stop) (st.nearestDistance, st.nearestStation)).1
        linkedNearStation := st.linkedNearStation || !(nearStations stop stations).isEmpty } := by
  induction stations generalizing st with
  | nil => simp [nearStations, locatedStations]
  | cons station rest ih =>
    rw [List.foldl_cons, ih]
    by_cases hc : hasCoordinates station.lat station.lng = true
    · have hl : locatedStations (station :: rest) = station :: locatedStations rest :=
        List.filter_cons_of_pos hc
      have hs : nearStations stop (station :: rest) =
          if CDouble.le (stopDistance stop station) (CDouble.lit 9 0) then
            station :: nearStations stop rest
          else nearStations stop rest := by
        rw [nearStations, hl, List.filter_cons, nearStations]
      rw [hl, hs, List.foldl_cons]
      by_cases hlt : CDouble.lt (stopDistance stop station) st.nearestDistance = true <;>
        by_cases hn : CDouble.le (stopDistance stop station) (CDouble.lit 9 0) = true <;>
        rw [stopDistance] at hlt hn <;>
        simp [linkNearStation, hc, hlt, hn, nearerStation, stopDistance, addContribution,
          transferContribution]
    · have hl : locatedStations (station :: rest) = locatedStations rest := List.filter_cons_of_neg hc
      have hs : nearStations stop (station :: rest) = nearStations stop rest := by
        rw [nearStations, hl, nearStations]
      rw [hl, hs]
      simp only [linkNearStation, hc, Bool.not_false, ↓reduceIte]

theorem linkStop_eq (stations : List (StationNode D)) (g : TransferGraph D) (stop : StopNode D) :
    linkStop stations g stop = (stopContributions stations stop).foldl addContribution g := by
  have hnear : (locatedStations stations).foldl (nearerStation stop) (CDouble.lit 999999 0, none) =
      nearestStation stop stations := rfl
  simp only [linkStop, stopContributions]
  split
  · rfl
  · rw [foldl_linkNearStation]
    simp only [Bool.false_or, hnear]
    by_cases hn : nearStations stop stations = []
    · simp only [hn, List.isEmpty_nil, Bool.not_true, ne_eq, not_true_eq_false, ↓reduceIte,
        List.map_nil, List.foldl_nil]
      cases nearestStation stop stations with
      | mk distance station => cases station <;> rfl
    · have he : (nearStations stop stations).isEmpty = false := by simpa using hn
      simp only [he, ne_eq, hn, not_false_eq_true, ↓reduceIte, Bool.not_false]

theorem foldl_linkStop (stations : List (StationNode D)) (stops : List (StopNode D))
    (g : TransferGraph D) :
    stops.foldl (linkStop stations) g =
      (stops.flatMap (stopContributions stations)).foldl addContribution g := by
  rw [List.foldl_flatMap]
  simp only [← linkStop_eq]

omit [CDouble D] in
theorem foldl_addContribution_ids (cs : List Contribution) (g : TransferGraph D) :
    (cs.foldl addContribution g).ids = g.ids := by
  induction cs generalizing g with
  | nil => rfl
  | cons c cs ih => rw [List.foldl_cons, ih, addContribution_ids]

/-- The graph is built by adding the contributions one after the other. -/
theorem dataLoaderBuildGraph_graph {data : AppData D} (h : data.graph = graphInit) :
    (dataLoaderBuildGraph data).1.graph = (contributions data).foldl addContribution (recordNodes data) := by
  have hmem := (nodesOf_recordNodes h).mem
  have hcontains : ∀ x, (recordNodes data).ids.contains x = (recordIds data).contains x := fun x => by
    rw [Bool.eq_iff_iff, List.contains_iff_mem, List.contains_iff_mem, hmem]
  let links := data.subwayDistances.foldl linkDistance (data.routes.foldl linkRoute (recordNodes data), 0)
  have hdef : (dataLoaderBuildGraph data).1.graph = data.stops.foldl (linkStop data.stations)
      (if links.2 = 0 then linkSharedLines data.stations links.1 else links.1) := rfl
  obtain ⟨h1, h2⟩ := foldl_linkDistance data.subwayDistances
    (data.routes.foldl linkRoute (recordNodes data)) 0
  rw [foldl_linkRoute] at h1 h2
  simp only [foldl_addContribution_ids, hcontains, true_and] at h2
  rw [hdef, foldl_linkStop]
  simp only [links, contributions, contributionsBy, List.foldl_append, foldl_linkRoute, ← h1]
  congr 1
  by_cases hz : data.subwayDistances.any (distanceUsed data) = true
  · rw [if_neg (fun hc => by rw [h2] at hc; exact absurd hz (by rw [Bool.not_eq_true]; exact hc)),
      if_pos hz, List.foldl_nil]
  · rw [if_pos (h2.mpr (Bool.eq_false_iff.mpr hz)), if_neg hz, linkSharedLines_eq]

/-! ## The minimum-merge -/

omit [CDouble D] in
theorem valid_routeContributions (route : RouteNode) : ∀ c ∈ routeContributions route, c.Valid := by
  intro c hc
  obtain ⟨i, hi, rfl⟩ := List.mem_iff_getElem.mp hc
  simp only [routeContributions, List.getElem_zipWith]
  exact ⟨(by decide : (0 : Int) < 5), route.routeNo.2⟩

theorem subwayMinutesFromDistance_pos (d : D) : 0 < subwayMinutesFromDistance d := by
  simp only [subwayMinutesFromDistance]
  split
  · decide
  · split <;> omega

theorem valid_distanceContribution (distance : SubwayDistanceNode D) :
    (distanceContribution distance).Valid := by
  refine ⟨?_, ?_⟩
  · simp only [distanceContribution]
    split
    · assumption
    · exact subwayMinutesFromDistance_pos _
  · simp only [distanceContribution]
    split
    · decide
    · exact distance.lineNo.2

omit [CDouble D] in
theorem sharedLineContributions_ids {shared : Str → Str → Option Str} {stations : List (StationNode D)} :
    ∀ c ∈ sharedLineContributions shared stations,
      c.fromId ∈ stations.map (·.stationId.val) ∧ c.toId ∈ stations.map (·.stationId.val) ∧ c.weight = 8 := by
  induction stations with
  | nil => exact List.forall_mem_nil _
  | cons station rest ih =>
    intro c hc
    rw [List.map_cons]
    rcases List.mem_append.mp hc with hc | hc
    · obtain ⟨other, hother, hmap⟩ := List.mem_filterMap.mp hc
      obtain ⟨line, -, rfl⟩ := Option.map_eq_some_iff.mp hmap
      exact ⟨List.mem_cons_self .., List.mem_cons_of_mem _ (List.mem_map_of_mem hother), rfl⟩
    · obtain ⟨hfrom, hto, hweight⟩ := ih c hc
      exact ⟨List.mem_cons_of_mem _ hfrom, List.mem_cons_of_mem _ hto, hweight⟩

omit [CDouble D] in
theorem valid_sharedLineContributions (stations : List (StationNode D)) :
    ∀ c ∈ sharedLineContributions leadingLine stations, c.Valid := by
  induction stations with
  | nil => simp [sharedLineContributions]
  | cons station rest ih =>
    intro c hc
    rcases List.mem_append.mp hc with hc | hc
    · obtain ⟨other, -, hmap⟩ := List.mem_filterMap.mp hc
      obtain ⟨line, hline, rfl⟩ := Option.map_eq_some_iff.mp hmap
      exact ⟨(by decide : (0 : Int) < 8), length_leadingLine_le station.lineNo.2 hline⟩
    · exact ih c hc

theorem transferMinutesFromDistance_pos (d : D) : 0 < transferMinutesFromDistance d := by
  simp only [transferMinutesFromDistance]
  repeat' split
  all_goals decide

theorem valid_stopContributions (stations : List (StationNode D)) (stop : StopNode D) :
    ∀ c ∈ stopContributions stations stop, c.Valid := by
  have hone : ∀ station distance, (transferContribution stop station distance).Valid := fun _ _ =>
    ⟨transferMinutesFromDistance_pos _, (by decide : (utf8 "TRANSFER").length ≤ maxRouteLen - 1)⟩
  intro c hc
  simp only [stopContributions] at hc
  split at hc
  · cases hc
  · split at hc
    · obtain ⟨station, -, rfl⟩ := List.mem_map.mp hc
      exact hone _ _
    · split at hc
      · rw [List.mem_singleton.mp hc]; exact hone _ _
      · cases hc

theorem valid_contributions (data : AppData D) : ∀ c ∈ contributions data, c.Valid := by
  intro c hc
  simp only [contributions, contributionsBy, List.mem_append] at hc
  rcases hc with ((hc | hc) | hc) | hc
  · obtain ⟨route, -, hc⟩ := List.mem_flatMap.mp hc
    exact valid_routeContributions route c hc
  · obtain ⟨distance, -, rfl⟩ := List.mem_map.mp hc
    exact valid_distanceContribution distance
  · split at hc
    · cases hc
    · exact valid_sharedLineContributions _ c hc
  · obtain ⟨stop, -, hc⟩ := List.mem_flatMap.mp hc
    exact valid_stopContributions _ stop c hc

theorem merged_buildGraph {data : AppData D} (h : data.graph = graphInit) :
    Merged (dataLoaderBuildGraph data).1.graph (contributions data) := by
  have hn := nodesOf_recordNodes h
  rw [dataLoaderBuildGraph_graph h]
  refine Merged.foldl ⟨hn.ok, hn.nodup, fun {u v x y} _ _ _ => ?_⟩ _ (valid_contributions data)
  simp [graphFindEdge, hn.noEdges]

end

theorem joins_comm (c : Contribution) (x y : Str) : c.joins x y = c.joins y x := by
  simp only [Contribution.joins, Bool.or_comm]

/-- A merged graph, seen through its edges. -/
theorem Merged.minMerge [CDouble D] {data : AppData D} {g : TransferGraph D} {cs : List Contribution}
    (h : Merged g cs) (hids : ∀ x, x ∈ g.ids ↔ x ∈ recordIds data) :
    MinMerge data cs g where
  ids_nodup := h.ids
  mem_ids id := by
    rw [hids, recordIds, List.mem_append, List.mem_map, List.mem_map]
  edge_iff {u v x y} huv hx hy := by
    have hkey := h.edge huv hx hy
    constructor
    · rintro ⟨e, he, hv⟩
      rw [h.ok.graphFindEdge_eq_some.mpr ⟨he, hv⟩, Option.map_some, eq_comm, Option.map_eq_some_iff] at hkey
      obtain ⟨c, hc, -⟩ := hkey
      have hmem := List.mem_filter.mp (List.argmin_mem hc)
      exact ⟨c, hmem⟩
    · rintro ⟨c, hc, hj⟩
      cases hf : graphFindEdge g u v with
      | some e => exact ⟨e, h.ok.graphFindEdge_eq_some.mp hf⟩
      | none =>
        rw [hf, Option.map_none, eq_comm, Option.map_eq_none_iff, List.argmin_eq_none] at hkey
        exact absurd (List.mem_filter.mpr ⟨hc, hj⟩) (by rw [hkey]; exact List.not_mem_nil)
  edge_unique u := (h.ok.edges u).unique
  edge_least {u v x y} huv hx hy e he hv := by
    have hkey := h.edge huv hx hy
    rw [h.ok.graphFindEdge_eq_some.mpr ⟨he, hv⟩, Option.map_some, eq_comm, Option.map_eq_some_iff] at hkey
    obtain ⟨c, hc, hk⟩ := hkey
    exact ⟨c, hc, (congrArg Prod.fst hk).symm, (congrArg Prod.snd hk).symm⟩
  symmetric u e he := by
    have hv := (h.ok.edges u).bound e he
    have hne := (h.ok.edges u).noLoop e he
    have hu : u < g.nodeCount := by
      by_contra hc
      rw [edgesAt_of_le (by omega)] at he
      cases he
    rw [← ids_length] at hu hv
    have hkey := h.edge (Ne.symm hne) (List.getElem?_eq_getElem hu) (List.getElem?_eq_getElem hv)
    have hback := h.edge hne (List.getElem?_eq_getElem hv) (List.getElem?_eq_getElem hu)
    simp only [joins_comm _ g.ids[u]] at hkey
    rw [← hback, h.ok.graphFindEdge_eq_some.mpr ⟨he, rfl⟩, Option.map_some, eq_comm,
      Option.map_eq_some_iff] at hkey
    obtain ⟨e', hf, hk⟩ := hkey
    obtain ⟨he', hto⟩ := h.ok.graphFindEdge_eq_some.mp hf
    exact ⟨e', he', hto, congrArg Prod.fst hk, Subtype.ext (congrArg Prod.snd hk)⟩

theorem mem_ids_buildGraph [CDouble D] {data : AppData D} (h : data.graph = graphInit) (x : Str) :
    x ∈ (dataLoaderBuildGraph data).1.graph.ids ↔ x ∈ recordIds data := by
  rw [dataLoaderBuildGraph_graph h, foldl_addContribution_ids]
  exact (nodesOf_recordNodes h).mem x

/-- Building the graph fails only where there is no record to build it from. -/
theorem dataLoaderBuildGraph_ok [CDouble D] {data : AppData D} (h : data.graph = graphInit) {x : Str}
    (hx : x ∈ recordIds data) : (dataLoaderBuildGraph data).2 = true := by
  have hpos := List.length_pos_of_mem ((mem_ids_buildGraph h x).mpr hx)
  rw [ids_length] at hpos
  exact decide_eq_true hpos

/-- The graph that the loader builds from any files is the minimum-merge of
what its records contribute. -/
theorem dataLoaderLoad_minMerge [CDouble D] (files : CsvFiles) :
    MinMerge (dataLoaderLoad files : AppData D × Bool).1 (contributions (dataLoaderLoad files : AppData D × Bool).1)
      (dataLoaderLoad files : AppData D × Bool).1.graph := by
  have hg := (loading_loadRecords (D := D) files).graph
  rw [dataLoaderLoad_eq]
  exact Merged.minMerge (merged_buildGraph hg) (mem_ids_buildGraph hg)

end Transit
