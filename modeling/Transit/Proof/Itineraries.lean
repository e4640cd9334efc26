import Transit.Proof.LoadedRecords
import Transit.Proof.TravelTimes

/-!
# Trips through the records

A `Link` is what one record of the CSV files lets one do: ride to the next stop
of a route, ride between two stations, walk from a stop to a station. The time
that `graph_find_path` finds between two ids is that of a quickest trip made of
links (`travelTime_quickest`), so that it obeys the triangle inequality
(`travelTime_triangle`) and does not grow when routes and distance rows are
added to the files (`travelTime_more`).
-/

namespace Transit

open Framework

variable {D : Type} [CDouble D]

/-- A record lets one go from `x` to `y` in `c` minutes. -/
def Link (data : AppData D) (x y : Str) (c : Int) : Prop :=
  x ∈ recordIds data ∧ y ∈ recordIds data ∧ ∃ k ∈ contributions data, k.joins x y = true ∧ k.weight = c

/-- The graph that the loader builds from the records. -/
def networkGraph (data : AppData D) : TransferGraph D :=
  (dataLoaderBuildGraph { data with graph := graphInit }).1.graph

/-- The path that the search finds between two ids. -/
def networkPath (mem : Bool) (data : AppData D) (x y : Str) : Option GraphPath :=
  graphFindPath mem (networkGraph data) (graphFindNode (networkGraph data) x) (graphFindNode (networkGraph data) y)

/-- The ids along a path. -/
def pathIds (data : AppData D) (path : GraphPath) : List Str :=
  path.indices.map fun i => (networkGraph data).ids.getD i []

/-! ## Links and edges -/

theorem merged_networkGraph (data : AppData D) : Merged (networkGraph data) (contributions data) :=
  @merged_buildGraph D _ { data with graph := graphInit } rfl

theorem mem_ids_networkGraph (data : AppData D) (x : Str) : x ∈ (networkGraph data).ids ↔ x ∈ recordIds data :=
  @mem_ids_buildGraph D _ { data with graph := graphInit } rfl x

theorem minMerge_networkGraph (data : AppData D) : MinMerge data (contributions data) (networkGraph data) :=
  Merged.minMerge (merged_networkGraph data) (mem_ids_networkGraph data)

theorem graphOk_networkGraph (data : AppData D) : GraphOk (networkGraph data) := (merged_networkGraph data).ok

/-- Every edge of the graph is a link of its weight. -/
theorem link_of_edge {data : AppData D} {u v : Nat} {c : Int} (h : (networkGraph data).Edge u v c) :
    Link data ((networkGraph data).ids.getD u []) ((networkGraph data).ids.getD v []) c := by
  obtain ⟨e, he, rfl, rfl⟩ := h
  have hmerge := minMerge_networkGraph data
  have hok := (graphOk_networkGraph data).edges u
  have hv := hok.bound e he
  have hu : u < (networkGraph data).nodeCount := by
    by_contra hc
    rw [edgesAt_of_le (by omega)] at he
    cases he
  rw [← ids_length] at hu hv
  have hx := List.getElem?_eq_getElem hu
  have hy := List.getElem?_eq_getElem hv
  obtain ⟨k, hk, hweight, -⟩ := hmerge.edge_least (Ne.symm (hok.noLoop e he)) hx hy e he rfl
  obtain ⟨hmem, hjoins⟩ := List.mem_filter.mp (List.argmin_mem hk)
  rw [List.getD_eq_getElem?_getD, List.getD_eq_getElem?_getD, hx, hy, Option.getD_some, Option.getD_some]
  exact ⟨(mem_ids_networkGraph data _).mp (List.getElem_mem hu), (mem_ids_networkGraph data _).mp (List.getElem_mem hv),
    k, hmem, hjoins, hweight.symm⟩

/-- Every link has an edge that takes no longer, but for one that stays where it is. -/
theorem edge_of_link {data : AppData D} (x y : Str) (c : Int) (u : Nat) (h : Link data x y c)
    (hx : (networkGraph data).ids[u]? = some x) :
    ∃ v, (networkGraph data).ids[v]? = some y ∧ (v = u ∧ 0 ≤ c ∨ ∃ c' ≤ c, (networkGraph data).Edge u v c') := by
  obtain ⟨-, hy, k, hk, hjoins, rfl⟩ := h
  have hmerge := minMerge_networkGraph data
  obtain ⟨v, hv, hvy⟩ := List.getElem_of_mem ((mem_ids_networkGraph data y).mpr hy)
  have hy : (networkGraph data).ids[v]? = some y := by rw [List.getElem?_eq_getElem hv, hvy]
  refine ⟨v, hy, ?_⟩
  by_cases huv : u = v
  · exact .inl ⟨huv.symm, Int.le_of_lt (valid_contributions data k hk).weight⟩
  · obtain ⟨e, he, hto⟩ := (hmerge.edge_iff huv hx hy).mpr ⟨k, hk, hjoins⟩
    obtain ⟨least, hleast, hweight, -⟩ := hmerge.edge_least huv hx hy e he hto
    have hle : least.weight ≤ k.weight := List.le_of_mem_argmin (List.mem_filter.mpr ⟨hk, hjoins⟩) hleast
    exact .inr ⟨e.weightMin, by rw [hweight]; exact hle, e, he, hto, rfl⟩

/-! ## The quickest trip -/

omit [CDouble D] in
/-- The path found is a first path of the graph. -/
theorem firstPath_of_graphFindPath {g : TransferGraph D} (hg : GraphOk g) {a b : Nat} (ha : a < g.nodeCount)
    (hb : b < g.nodeCount) (hexact : SumsExact g a b) {mem : Bool} {path : GraphPath}
    (h : graphFindPath mem g a b = some path) : FirstPath g.Edge a b path.indices path.totalMinutes := by
  cases mem with
  | false =>
    rw [graphFindPath_eq ha hb] at h
    cases h
  | true =>
    obtain ⟨found, s, -, -, hnone, hsome⟩ := graphFindPath_end ha hb hg hexact
    cases found with
    | false =>
      rw [hnone rfl] at h
      cases h
    | true =>
      obtain ⟨l, -, hfirst, hpath⟩ := hsome rfl
      rw [hpath] at h
      split at h
      · cases h
        exact hfirst
      · cases h

/-- The nodes between which a path was found. -/
theorem networkPath_nodes {data : AppData D} {mem : Bool} {x y : Str} {path : GraphPath}
    (h : networkPath mem data x y = some path) : ∃ a b : Nat, (networkGraph data).ids[a]? = some x ∧
      (networkGraph data).ids[b]? = some y ∧ graphFindPath mem (networkGraph data) a b = some path := by
  unfold networkPath at h
  obtain ⟨i, j, hi, hj, -, -⟩ := graphFindPath_indices h
  have hnode : ∀ {x : Str} {i : Nat}, graphFindNode (networkGraph data) x = i →
      (networkGraph data).ids[i]? = some x := by
    intro x i hi
    have hmem : x ∈ (networkGraph data).ids := by
      by_contra hmem
      have := graphFindNode_neg.mpr hmem
      omega
    obtain ⟨k, hk, hkx⟩ := List.getElem_of_mem hmem
    have hfind := graphFindNode_of_getElem? (merged_networkGraph data).ids
      (show (networkGraph data).ids[k]? = some x by rw [List.getElem?_eq_getElem hk, hkx])
    obtain rfl : k = i := Int.natCast_inj.mp (hfind.symm.trans hi)
    rw [List.getElem?_eq_getElem hk, hkx]
  rw [hi, hj] at h
  exact ⟨i, j, hnode hi, hnode hj, h⟩

/-- A path found is a trip through the records, and no trip is quicker. -/
structure Quickest (data : AppData D) (x y : Str) (path : GraphPath) : Prop where
  trip : Walk (Link data) x y (pathIds data path) path.totalMinutes
  least : ∀ l w, Walk (Link data) x y l w → path.totalMinutes ≤ w

theorem quickest_of_networkPath {data : AppData D} (hw : (networkGraph data).totalWeight < inf) {mem : Bool} {x y : Str}
    {path : GraphPath} (h : networkPath mem data x y = some path) : Quickest data x y path := by
  obtain ⟨a, b, hx, hy, hpath⟩ := networkPath_nodes h
  have hg := graphOk_networkGraph data
  have ha : a < (networkGraph data).nodeCount := by
    rw [← ids_length]
    exact (List.getElem?_eq_some_iff.mp hx).1
  have hb : b < (networkGraph data).nodeCount := by
    rw [← ids_length]
    exact (List.getElem?_eq_some_iff.mp hy).1
  have hfirst := firstPath_of_graphFindPath hg ha hb (sumsExact_of_totalWeight ha hg hw) hpath
  refine ⟨?_, fun l w hwalk => ?_⟩
  · have hlink : ∀ u v c, (networkGraph data).Edge u v c → Link data ((networkGraph data).ids.getD u [])
        ((networkGraph data).ids.getD v []) c := fun u v c he => link_of_edge he
    have htrip := hfirst.walk.map (f := fun i => (networkGraph data).ids.getD i []) hlink
    rw [List.getD_eq_getElem?_getD, List.getD_eq_getElem?_getD, hx, hy] at htrip
    exact htrip
  · obtain ⟨b', l', w', hb', hle, hwalk'⟩ := hwalk.follow (R := fun z i => (networkGraph data).ids[i]? = some z)
      (fun x y c u => edge_of_link x y c u) hx
    obtain rfl : b' = b := index_unique (merged_networkGraph data).ids hb' hy
    exact Int.le_trans (hfirst.minimal hg.edge_nonneg hwalk') hle

/-- The graph of a loaded store is that of its records. -/
theorem networkGraph_loaded (files : CsvFiles) :
    networkGraph (loadedData files : AppData D) = (loadedData files : AppData D).graph := by
  have hg := (loading_loadRecords (D := D) files).graph
  have hrecords : { (loadedData files : AppData D) with graph := graphInit } = loadRecords files := by
    rw [← hg]
    rfl
  unfold networkGraph
  rw [hrecords]
  rfl

/-- In every loaded store, the path between two ids is a quickest trip through the
records of the files, link by link. -/
theorem travelTime_quickest (files : CsvFiles) (hw : (loadedData files : AppData D).graph.totalWeight < inf)
    (mem : Bool) (x y : Str) (path : GraphPath) :
    let data := (loadedData files : AppData D)
    graphFindPath mem data.graph (graphFindNode data.graph x) (graphFindNode data.graph y) = some path →
      Walk (Link data) x y (path.indices.map fun i => data.graph.ids.getD i []) path.totalMinutes ∧
        ∀ l w, Walk (Link data) x y l w → path.totalMinutes ≤ w := by
  intro data h
  have hgraph : networkGraph data = data.graph := networkGraph_loaded files
  have hquick := @quickest_of_networkPath D _ data (by rw [hgraph]; exact hw) mem x y path
    (show networkPath mem data x y = some path by
      unfold networkPath
      rw [hgraph]
      exact h)
  have htrip := hquick.trip
  unfold pathIds at htrip
  rw [hgraph] at htrip
  exact ⟨htrip, hquick.least⟩

theorem travelTime_quickest_row : ∃ path,
    graphFindPath true (loadedData rowFiles : AppData ℚ).graph 3 1 = some path ∧
      ∀ l w, Walk (Link (loadedData rowFiles : AppData ℚ)) (utf8 "T") (utf8 "V") l w → path.totalMinutes ≤ w := by
  have hpath : (graphFindPath true (loadedData rowFiles : AppData ℚ).graph 3 1).isSome = true := by decide +kernel
  obtain ⟨path, hpath⟩ := Option.isSome_iff_exists.mp hpath
  have hfrom : graphFindNode (loadedData rowFiles : AppData ℚ).graph (utf8 "T") = 3 := by decide +kernel
  have hto : graphFindNode (loadedData rowFiles : AppData ℚ).graph (utf8 "V") = 1 := by decide +kernel
  exact ⟨path, hpath, (travelTime_quickest (D := ℚ) rowFiles (by decide +kernel) true (utf8 "T") (utf8 "V") path
    (by rw [hfrom, hto]; exact hpath)).2⟩

/-! ## Trips one after the other, and more records -/

/-- Going by way of a third place never saves time. -/
theorem travelTime_triangle (data : AppData D) (hw : (networkGraph data).totalWeight < inf) (mem : Bool) (x y z : Str)
    (direct first second : GraphPath) (hdirect : networkPath mem data x z = some direct)
    (hfirst : networkPath mem data x y = some first) (hsecond : networkPath mem data y z = some second) :
    direct.totalMinutes ≤ first.totalMinutes + second.totalMinutes :=
  (quickest_of_networkPath hw hdirect).least _ _
    ((quickest_of_networkPath hw hfirst).trip.append (quickest_of_networkPath hw hsecond).trip)

theorem travelTime_triangle_row : ∃ direct first second,
    networkPath true (loadedData rowFiles : AppData ℚ) (utf8 "T") (utf8 "V") = some direct ∧
      networkPath true (loadedData rowFiles : AppData ℚ) (utf8 "T") (utf8 "U") = some first ∧
      networkPath true (loadedData rowFiles : AppData ℚ) (utf8 "U") (utf8 "V") = some second ∧
      direct.totalMinutes ≤ first.totalMinutes + second.totalMinutes := by
  have hsome : ∀ x ∈ [utf8 "T", utf8 "U", utf8 "V"], ∀ y ∈ [utf8 "T", utf8 "U", utf8 "V"],
      (networkPath true (loadedData rowFiles : AppData ℚ) x y).isSome = true := by decide +kernel
  obtain ⟨direct, hdirect⟩ := Option.isSome_iff_exists.mp (hsome (utf8 "T") (by decide) (utf8 "V") (by decide))
  obtain ⟨first, hfirst⟩ := Option.isSome_iff_exists.mp (hsome (utf8 "T") (by decide) (utf8 "U") (by decide))
  obtain ⟨second, hsecond⟩ := Option.isSome_iff_exists.mp (hsome (utf8 "U") (by decide) (utf8 "V") (by decide))
  exact ⟨direct, first, second, hdirect, hfirst, hsecond, travelTime_triangle _ (by decide +kernel) true _ _ _
    direct first second hdirect hfirst hsecond⟩

/-- Records to which routes and distance rows were added. The first distance row
that can be used is another matter: it takes the place of the shared lines. -/
structure MoreRecords (data more : AppData D) : Prop where
  stops : more.stops = data.stops
  stations : more.stations = data.stations
  routes : data.routes ⊆ more.routes
  distances : data.subwayDistances ⊆ more.subwayDistances
  used : data.subwayDistances.any (distanceUsed data) = true ∨ more.subwayDistances = data.subwayDistances

omit [CDouble D] in
theorem MoreRecords.recordIds {data more : AppData D} (h : MoreRecords data more) :
    Transit.recordIds more = Transit.recordIds data := by
  unfold Transit.recordIds
  rw [h.stops, h.stations]

theorem MoreRecords.contributions {data more : AppData D} (h : MoreRecords data more) :
    Transit.contributions data ⊆ Transit.contributions more := by
  have hused : distanceUsed more = distanceUsed data := by
    unfold distanceUsed
    rw [h.recordIds]
  have hshared :
      (if data.subwayDistances.any (distanceUsed data) then []
        else sharedLineContributions leadingLine data.stations) =
      if more.subwayDistances.any (distanceUsed more) then []
      else sharedLineContributions leadingLine more.stations := by
    rw [hused, h.stations]
    rcases h.used with hany | heq
    · have hmore : more.subwayDistances.any (distanceUsed data) = true := by
        obtain ⟨d, hd, hdist⟩ := List.any_eq_true.mp hany
        exact List.any_eq_true.mpr ⟨d, h.distances hd, hdist⟩
      rw [hany, hmore]
    · rw [heq]
  intro k hk
  unfold Transit.contributions contributionsBy at hk ⊢
  rw [hshared] at hk
  simp only [List.mem_append] at hk ⊢
  rcases hk with ((hk | hk) | hk) | hk
  · obtain ⟨route, hroute, hk⟩ := List.mem_flatMap.mp hk
    exact .inl (.inl (.inl (List.mem_flatMap.mpr ⟨route, h.routes hroute, hk⟩)))
  · obtain ⟨d, hd, rfl⟩ := List.mem_map.mp hk
    exact .inl (.inl (.inr (List.mem_map.mpr ⟨d, h.distances hd, rfl⟩)))
  · exact .inl (.inr hk)
  · rw [h.stops, h.stations]
    exact .inr hk

/-- More routes and more distance rows never make a trip longer. -/
theorem travelTime_more (data more : AppData D) (h : MoreRecords data more)
    (hw : (networkGraph data).totalWeight < inf) (hw' : (networkGraph more).totalWeight < inf) (mem mem' : Bool)
    (x y : Str) (path path' : GraphPath) (hpath : networkPath mem data x y = some path)
    (hpath' : networkPath mem' more x y = some path') : path'.totalMinutes ≤ path.totalMinutes := by
  refine (quickest_of_networkPath hw' hpath').least (pathIds data path) _ ?_
  have hlink : ∀ u v c, Link data u v c → Link more (id u) (id v) c := by
    rintro u v c ⟨hu, hv, k, hk, hjoins⟩
    rw [← h.recordIds] at hu hv
    exact ⟨hu, hv, k, h.contributions hk, hjoins⟩
  have htrip := (quickest_of_networkPath hw hpath).trip.map hlink
  rwa [List.map_id] at htrip

/-- The three stations of `rowFiles`, and a direct line between the first and the last. -/
def directLineData : AppData ℚ :=
  let data := (loadedData rowFiles : AppData ℚ)
  { data with
    subwayDistances := ⟨.copy _ (utf8 "T"), .copy _ (utf8 "V"), .copy _ [], 0, 4⟩ :: data.subwayDistances }

theorem moreRecords_directLine : MoreRecords (loadedData rowFiles : AppData ℚ) directLineData where
  stops := rfl
  stations := rfl
  routes := List.Subset.refl _
  distances := List.subset_cons_self _ _
  used := .inl (by decide +kernel)

theorem travelTime_more_directLine : ∃ path path',
    networkPath true (loadedData rowFiles : AppData ℚ) (utf8 "T") (utf8 "V") = some path ∧
      networkPath true directLineData (utf8 "T") (utf8 "V") = some path' ∧ path'.totalMinutes ≤ path.totalMinutes := by
  have hpath : (networkPath true (loadedData rowFiles : AppData ℚ) (utf8 "T") (utf8 "V")).isSome = true := by
    decide +kernel
  have hpath' : (networkPath true directLineData (utf8 "T") (utf8 "V")).isSome = true := by decide +kernel
  obtain ⟨path, hpath⟩ := Option.isSome_iff_exists.mp hpath
  obtain ⟨path', hpath'⟩ := Option.isSome_iff_exists.mp hpath'
  exact ⟨path, path', hpath, hpath', travelTime_more _ _ moreRecords_directLine (by decide +kernel) (by decide +kernel)
    true true _ _ path path' hpath hpath'⟩

end Transit
