import Transit.Framework.Folds
import Transit.Proof.GraphBuild

/-!
# The stations that stops are linked to

A stop with coordinates is linked to the stations near it or, if there is none,
to the nearest one. The search for the nearest one starts from the square of a
distance, 999999: a station that is no nearer is not found.

* `stopLinked_iff`: the stops that have a link to a station, and where there is
  none near it to the nearest one.
-/

namespace Transit

open Framework (keepLess foldl_keepLess)

/-- Edges in both directions between the nodes of two ids, of at most this time. -/
def TwoWay {D : Type} (g : TransferGraph D) (x y : Str) (minutes : Int) : Prop :=
  ∃ u v, g.ids[u]? = some x ∧ g.ids[v]? = some y ∧
    (∃ e ∈ g.edgesAt u, e.toIndex = v ∧ e.weightMin ≤ minutes) ∧
    ∃ e ∈ g.edgesAt v, e.toIndex = u ∧ e.weightMin ≤ minutes

/-- A station at the least distance from a stop. -/
structure NearestTo (stations : List (StationNode ℚ)) (stop : StopNode ℚ) (station : StationNode ℚ) : Prop where
  located : station ∈ locatedStations stations
  least : ∀ other ∈ locatedStations stations, stopDistance stop station ≤ stopDistance stop other

/-- A stop is linked to a station, and to a nearest one if none is near it. -/
structure StopLinked (data : AppData ℚ) (g : TransferGraph ℚ) (stop : StopNode ℚ) : Prop where
  station : ∃ station ∈ data.stations, TwoWay g stop.stopId station.stationId 80
  nearest : (∀ station ∈ locatedStations data.stations, 9 < stopDistance stop station) →
    ∃ station, NearestTo data.stations stop station ∧ TwoWay g stop.stopId station.stationId 80

/-- What the routes and the subway distances contribute. -/
def rowContributions (data : AppData ℚ) : List Contribution :=
  data.routes.flatMap routeContributions ++ data.subwayDistances.map distanceContribution

/-- A station is within reach of the search, or a row of the data joins a nearest one. -/
def StationInReach (data : AppData ℚ) (stop : StopNode ℚ) : Prop :=
  (∃ station ∈ locatedStations data.stations, stopDistance stop station < 999999) ∨
  ∃ station, NearestTo data.stations stop station ∧
    ∃ c ∈ rowContributions data, c.joins stop.stopId station.stationId = true ∧ c.weight ≤ 80

/-! ## Edges and contributions -/

/-- Two nodes are joined within a time exactly when a contribution joins them within it. -/
theorem MinMerge.twoWay_iff {D : Type} [CDouble D] {data : AppData D} {g : TransferGraph D}
    {cs : List Contribution} (h : MinMerge data cs g)
    {x y : Str} (hx : x ∈ g.ids) (hy : y ∈ g.ids) (hxy : x ≠ y) (minutes : Int) :
    TwoWay g x y minutes ↔ ∃ c ∈ cs, c.joins x y = true ∧ c.weight ≤ minutes := by
  constructor
  · rintro ⟨u, v, hu, hv, ⟨e, he, hto, hle⟩, -⟩
    have huv : u ≠ v := by
      rintro rfl
      exact hxy (Option.some_inj.mp (hu.symm.trans hv))
    obtain ⟨c, hc, hweight, -⟩ := h.edge_least huv hu hv e he hto
    obtain ⟨hmem, hjoins⟩ := List.mem_filter.mp (List.argmin_mem hc)
    exact ⟨c, hmem, hjoins, hweight ▸ hle⟩
  · rintro ⟨c, hc, hjoins, hle⟩
    obtain ⟨u, hu⟩ := List.mem_iff_getElem?.mp hx
    obtain ⟨v, hv⟩ := List.mem_iff_getElem?.mp hy
    have huv : u ≠ v := by
      rintro rfl
      exact hxy (Option.some_inj.mp (hu.symm.trans hv))
    obtain ⟨e, he, hto⟩ := (h.edge_iff huv hu hv).mpr ⟨c, hc, hjoins⟩
    obtain ⟨least, hleast, hweight, -⟩ := h.edge_least huv hu hv e he hto
    have hshort : e.weightMin ≤ minutes := by
      rw [hweight]
      exact (List.le_of_mem_argmin (List.mem_filter.mpr ⟨hc, hjoins⟩) hleast).trans hle
    obtain ⟨e', he', hto', hweight', -⟩ := h.symmetric u e he
    exact ⟨u, v, hu, hv, ⟨e, he, hto, hshort⟩, e', hto ▸ he', hto', hweight' ▸ hshort⟩

theorem transferMinutesFromDistance_le {D : Type} [CDouble D] (d : D) : transferMinutesFromDistance d ≤ 80 := by
  simp only [transferMinutesFromDistance]
  repeat' split
  all_goals decide

/-! ## The nearest station -/

theorem nearestStation_eq (stop : StopNode ℚ) (stations : List (StationNode ℚ)) :
    nearestStation stop stations =
      (locatedStations stations).foldl (keepLess (stopDistance stop)) (999999, none) := by
  have hstep : nearerStation stop = keepLess (stopDistance stop) := by
    funext best station
    show (if decide (_ < _) = true then _ else _) = _
    simp only [decide_eq_true_eq, keepLess]
  have hbound : (CDouble.lit 999999 0 : ℚ) = 999999 := by
    show (999999 : ℚ) / 10 ^ 0 = 999999
    norm_num
  rw [nearestStation, hstep, hbound]

/-- The search finds a nearest station, or none is within its reach. -/
theorem nearestStation_cases (stop : StopNode ℚ) (stations : List (StationNode ℚ)) :
    (∃ station, NearestTo stations stop station ∧
      nearestStation stop stations = (stopDistance stop station, some station) ∧
      stopDistance stop station < 999999) ∨
    nearestStation stop stations = (999999, none) ∧
      ∀ station ∈ locatedStations stations, 999999 ≤ stopDistance stop station := by
  obtain ⟨hleast, hfound⟩ := foldl_keepLess (stopDistance stop) (locatedStations stations) (999999, none)
  rw [← nearestStation_eq] at hleast hfound
  rcases hfound with heq | ⟨station, hstation, heq, hlt⟩
  · rw [heq] at hleast
    exact .inr ⟨heq, hleast⟩
  · rw [heq] at hleast
    exact .inl ⟨station, ⟨hstation, hleast⟩, heq, hlt⟩

theorem mem_nearStations {stop : StopNode ℚ} {stations : List (StationNode ℚ)} {station : StationNode ℚ} :
    station ∈ nearStations stop stations ↔
      station ∈ locatedStations stations ∧ stopDistance stop station ≤ 9 := by
  have hnine : (CDouble.lit 9 0 : ℚ) = 9 := by
    show (9 : ℚ) / 10 ^ 0 = 9
    norm_num
  rw [nearStations, List.mem_filter, hnine]
  exact and_congr_right fun _ => decide_eq_true_iff

/-! ## The contributions to a stop -/

/-- Within reach of the search a stop contributes a link of its own. -/
theorem stopContributions_reach {stop : StopNode ℚ} {stations : List (StationNode ℚ)}
    (hcoords : hasCoordinates stop.lat stop.lng = true)
    (hreach : ∃ station ∈ locatedStations stations, stopDistance stop station < 999999) :
    (∃ station ∈ locatedStations stations, stopDistance stop station ≤ 9 ∧
      ∃ d, transferContribution stop station d ∈ stopContributions stations stop) ∨
    ∃ station, NearestTo stations stop station ∧
      ∃ d, transferContribution stop station d ∈ stopContributions stations stop := by
  unfold stopContributions
  rw [hcoords, Bool.not_true, if_neg Bool.false_ne_true]
  by_cases hnear : nearStations stop stations = []
  · rw [if_neg (not_not.mpr hnear)]
    rcases nearestStation_cases stop stations with ⟨station, hnearest, heq, -⟩ | ⟨-, hfar⟩
    · rw [heq]
      exact .inr ⟨station, hnearest, _, List.mem_singleton_self _⟩
    · obtain ⟨station, hstation, hlt⟩ := hreach
      exact absurd hlt (not_lt.mpr (hfar station hstation))
  · rw [if_pos hnear]
    obtain ⟨station, hstation⟩ := List.exists_mem_of_ne_nil _ hnear
    obtain ⟨hlocated, hnine⟩ := mem_nearStations.mp hstation
    exact .inl ⟨station, hlocated, hnine, _, List.mem_map_of_mem hstation⟩

/-- Out of reach it contributes none. -/
theorem stopContributions_far {stop : StopNode ℚ} {stations : List (StationNode ℚ)}
    (hfar : ∀ station ∈ locatedStations stations, 999999 ≤ stopDistance stop station) :
    stopContributions stations stop = [] := by
  have hnear : nearStations stop stations = [] := by
    refine List.eq_nil_iff_forall_not_mem.mpr fun station hstation => ?_
    obtain ⟨hlocated, hnine⟩ := mem_nearStations.mp hstation
    exact absurd ((hfar station hlocated).trans hnine) (by norm_num)
  unfold stopContributions
  split
  · rfl
  rw [if_neg (not_not.mpr hnear)]
  rcases nearestStation_cases stop stations with ⟨station, hnearest, -, hlt⟩ | ⟨heq, -⟩
  · exact absurd hlt (not_lt.mpr (hfar station hnearest.located))
  · rw [heq]

/-- Every link of the transfer rule is from a stop to a station. -/
theorem stopContributions_ids {stop : StopNode ℚ} {stations : List (StationNode ℚ)} :
    ∀ c ∈ stopContributions stations stop,
      c.fromId = stop.stopId ∧ c.toId ∈ stations.map (·.stationId.val) := by
  have hlocated : ∀ station ∈ locatedStations stations, station.stationId.val ∈ stations.map (·.stationId.val) :=
    fun station h => List.mem_map_of_mem (List.mem_filter.mp h).1
  intro c hc
  unfold stopContributions at hc
  split at hc
  · cases hc
  split at hc
  · obtain ⟨station, hstation, rfl⟩ := List.mem_map.mp hc
    exact ⟨rfl, hlocated station (mem_nearStations.mp hstation).1⟩
  · rcases nearestStation_cases stop stations with ⟨station, hnearest, heq, -⟩ | ⟨heq, -⟩
    · rw [heq] at hc
      rw [List.mem_singleton.mp hc]
      exact ⟨rfl, hlocated station hnearest.located⟩
    · rw [heq] at hc
      cases hc

/-- A stop that contributes nothing itself is joined to stations by rows of the data only. -/
theorem joins_rowContributions {data : AppData ℚ} (hids : (recordIds data).Nodup) {stop : StopNode ℚ}
    (hstop : stop ∈ data.stops) (hnone : stopContributions data.stations stop = []) {station : StationNode ℚ}
    {c : Contribution} (hc : c ∈ contributions data)
    (hjoins : c.joins stop.stopId station.stationId = true) : c ∈ rowContributions data := by
  obtain ⟨hstops, -, hdisjoint⟩ := List.nodup_append.mp hids
  have hother : ∀ id ∈ data.stations.map (·.stationId.val), stop.stopId.val ≠ id := fun id hid =>
    hdisjoint _ (List.mem_map_of_mem hstop) _ hid
  have hends : c.fromId = stop.stopId ∨ c.toId = stop.stopId :=
    (joins_iff.mp hjoins).imp And.left And.right
  unfold contributions contributionsBy at hc
  rw [List.mem_append, List.mem_append] at hc
  rcases hc with (hc | hc) | hc
  · exact hc
  · split at hc
    · cases hc
    · obtain ⟨hfrom, hto, -⟩ := sharedLineContributions_ids c hc
      rcases hends with hend | hend
      · exact absurd hend.symm (hother _ hfrom)
      · exact absurd hend.symm (hother _ hto)
  · obtain ⟨stop', hstop', hc⟩ := List.mem_flatMap.mp hc
    obtain ⟨hfrom, hto⟩ := stopContributions_ids c hc
    rcases hends with hend | hend
    · have hsame : stop' = stop := List.inj_on_of_nodup_map hstops hstop' hstop (hfrom.symm.trans hend)
      rw [hsame, hnone] at hc
      cases hc
    · exact absurd hend.symm (hother _ hto)

/-- A stop with coordinates is linked to stations exactly when one of them is within
reach of the search for the nearest, or the routes and the subway distances join a
nearest one to it. -/
theorem stopLinked_iff {data : AppData ℚ} (hgraph : data.graph = graphInit) (hids : (recordIds data).Nodup)
    {stop : StopNode ℚ} (hstop : stop ∈ data.stops) (hcoords : hasCoordinates stop.lat stop.lng = true) :
    StopLinked data (dataLoaderBuildGraph data).1.graph stop ↔ StationInReach data stop := by
  have hmerge := (merged_buildGraph hgraph).minMerge (mem_ids_buildGraph hgraph)
  have hnode : ∀ station ∈ data.stations, ∀ minutes,
      TwoWay (dataLoaderBuildGraph data).1.graph stop.stopId station.stationId minutes ↔
        ∃ c ∈ contributions data, c.joins stop.stopId station.stationId = true ∧ c.weight ≤ minutes := by
    intro station hstation minutes
    have hne := (List.nodup_append.mp hids).2.2 _ (List.mem_map_of_mem hstop) _ (List.mem_map_of_mem hstation)
    refine hmerge.twoWay_iff ?_ ?_ hne minutes
    · exact (hmerge.mem_ids _).mpr (.inl ⟨stop, hstop, rfl⟩)
    · exact (hmerge.mem_ids _).mpr (.inr ⟨station, hstation, rfl⟩)
  have hlocated : ∀ station ∈ locatedStations data.stations, station ∈ data.stations :=
    fun station h => (List.mem_filter.mp h).1
  constructor
  · rintro ⟨-, hnearest⟩
    by_cases hreach : ∃ station ∈ locatedStations data.stations, stopDistance stop station < 999999
    · exact .inl hreach
    · have hfar : ∀ station ∈ locatedStations data.stations, 999999 ≤ stopDistance stop station :=
        fun station h => not_lt.mp fun hlt => hreach ⟨station, h, hlt⟩
      obtain ⟨station, hleast, hlink⟩ := hnearest fun station h => lt_of_lt_of_le (by norm_num) (hfar station h)
      have hstation := hlocated station hleast.located
      obtain ⟨c, hc, hjoins, hle⟩ := (hnode station hstation 80).mp hlink
      exact .inr ⟨station, hleast, c,
        joins_rowContributions hids hstop (stopContributions_far hfar) hc hjoins, hjoins, hle⟩
  · have hown : ∀ station ∈ data.stations,
        (∃ d, transferContribution stop station d ∈ stopContributions data.stations stop) →
        TwoWay (dataLoaderBuildGraph data).1.graph stop.stopId station.stationId 80 := by
      rintro station hstation ⟨d, hd⟩
      refine (hnode station hstation 80).mpr ⟨transferContribution stop station d, ?_,
        joins_iff.mpr (.inl ⟨rfl, rfl⟩), transferMinutesFromDistance_le d⟩
      exact List.mem_append_right _ (List.mem_flatMap.mpr ⟨stop, hstop, hd⟩)
    rintro (hreach | ⟨station, hleast, c, hc, hjoins, hle⟩)
    · rcases stopContributions_reach hcoords hreach with ⟨station, hin, hnine, hd⟩ | ⟨station, hleast, hd⟩
      · have hlink := hown station (hlocated station hin) hd
        exact ⟨⟨station, hlocated station hin, hlink⟩, fun hfar => absurd hnine (not_le.mpr (hfar station hin))⟩
      · have hlink := hown station (hlocated station hleast.located) hd
        exact ⟨⟨station, hlocated station hleast.located, hlink⟩, fun _ => ⟨station, hleast, hlink⟩⟩
    · have hstation := hlocated station hleast.located
      have hlink := (hnode station hstation 80).mpr
        ⟨c, List.mem_append_left _ (List.mem_append_left _ hc), hjoins, hle⟩
      exact ⟨⟨station, hstation, hlink⟩, fun _ => ⟨station, hleast, hlink⟩⟩

theorem mem_edgesAt {D : Type} {g : TransferGraph D} {i : Nat} {e : GraphEdge} (h : e ∈ g.edgesAt i) :
    ∃ node ∈ g.nodes, e ∈ node.edges := by
  unfold TransferGraph.edgesAt at h
  cases hnode : g.nodes[i]? with
  | none =>
    rw [hnode] at h
    cases h
  | some node =>
    rw [hnode] at h
    exact ⟨node, List.mem_of_getElem? hnode, h⟩

/-- A stop with the given coordinates, and a station. -/
def stopFiles (coordinates : Str) : CsvFiles where
  busStops := some (utf8 "stop_id,stop_name,lat,lng\nS,S," ++ coordinates)
  busRoutes := some (utf8 "route_no,route_name,start_stop_id,end_stop_id\n1,1,S,S\n")
  routeStops := some (utf8 "route_no,seq,stop_id\n1,1,S\n")
  subwayStations := some (utf8 "station_id,station_name,line_no,lat,lng\nT,T,1,36.8,127.1\n")
  subwayDistances := some (utf8 "from_station_id,to_station_id,distance_km,estimated_minutes\nT,T,,2\n")
  facilities := some (utf8 "facility_id,name,category,nearest_node_id\n")
  arrivalTest := some (utf8 "route_no,node_id,time_slot,arrival_minutes,status\n")
  crowdingTest := some (utf8 "route_no,node_id,time_slot,crowding_level\n")

/-- A stop near one station, and another station farther off. -/
def nearFiles : CsvFiles :=
  { stopFiles (utf8 "36.8,127.2") with
    subwayStations := some (utf8 "station_id,station_name,line_no,lat,lng\nT,T,1,36.8,127.1\nU,U,1,37.8,128.1\n") }

theorem stopLinked_near : ∃ stop ∈ (loadRecords nearFiles : AppData ℚ).stops,
    StopLinked (loadRecords nearFiles)
      (dataLoaderBuildGraph (loadRecords nearFiles)).1.graph stop := by
  have hgraph := (loading_loadRecords (D := ℚ) nearFiles).graph
  have hids : (recordIds (loadRecords nearFiles : AppData ℚ)).Nodup := by decide +kernel
  have hstops : (loadRecords nearFiles : AppData ℚ).stops ≠ [] := by decide +kernel
  have hreach : ∀ stop ∈ (loadRecords nearFiles : AppData ℚ).stops,
      hasCoordinates stop.lat stop.lng = true ∧
      ∃ station ∈ locatedStations (loadRecords nearFiles).stations,
        stopDistance stop station < 999999 := by decide +kernel
  obtain ⟨stop, hstop⟩ := List.exists_mem_of_ne_nil _ hstops
  obtain ⟨hcoords, hnear⟩ := hreach stop hstop
  exact ⟨stop, hstop, (stopLinked_iff hgraph hids hstop hcoords).mpr (.inl hnear)⟩

/-- The columns of the stop are swapped. -/
def swappedFiles : CsvFiles := stopFiles (utf8 "127.1,36.8")

/-- The stop has no link at all. -/
theorem stopLinked_swapped : (dataLoaderLoad swappedFiles : AppData ℚ × Bool).2 = true ∧
    (recordIds (loadRecords swappedFiles : AppData ℚ)).Nodup ∧
    locatedStations (loadRecords swappedFiles : AppData ℚ).stations ≠ [] ∧
    ∃ stop ∈ (loadRecords swappedFiles : AppData ℚ).stops,
      hasCoordinates stop.lat stop.lng = true ∧
      ¬ StopLinked (loadRecords swappedFiles)
        (dataLoaderBuildGraph (loadRecords swappedFiles)).1.graph stop := by
  have hstops : (loadRecords swappedFiles : AppData ℚ).stops ≠ [] := by decide +kernel
  have hcoords : ∀ stop ∈ (loadRecords swappedFiles : AppData ℚ).stops,
      hasCoordinates stop.lat stop.lng = true := by decide +kernel
  have hedges : ∀ node ∈ (dataLoaderBuildGraph (loadRecords swappedFiles : AppData ℚ)).1.graph.nodes,
      node.edges.isEmpty = true := by decide +kernel
  obtain ⟨stop, hstop⟩ := List.exists_mem_of_ne_nil _ hstops
  refine ⟨by decide +kernel, by decide +kernel, by decide +kernel, stop, hstop, hcoords stop hstop, fun h => ?_⟩
  obtain ⟨station, -, u, v, -, -, ⟨e, he, -⟩, -⟩ := h.station
  obtain ⟨node, hnode, he⟩ := mem_edgesAt he
  rw [List.isEmpty_iff.mp (hedges node hnode)] at he
  cases he

end Transit
