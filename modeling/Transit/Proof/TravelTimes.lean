import Transit.Proof.PathSearch
import Transit.Proof.RecordViews

/-!
# The way there takes as long as the way back

The loader adds every edge in both directions, and replaces a longer time in
both (`MinMerge.symmetric`), so that a walk can be walked back
(`Framework.Walk.reverse`).

* `travelTime_symmetric`: two searches between the same nodes of a loaded graph
  give the same time.
-/

namespace Transit

open Framework

variable {D : Type}

/-- Every edge of a merged graph has one back of its weight. -/
theorem MinMerge.edge_back [CDouble D] {data : AppData D} {cs : List Contribution} {g : TransferGraph D}
    (h : MinMerge data cs g) (u v : Nat)
    (c : Int) (he : g.Edge u v c) : g.Edge v u c := by
  obtain ⟨e, he, rfl, rfl⟩ := he
  obtain ⟨e', he', hto, hweight, -⟩ := h.symmetric u e he
  exact ⟨e', he', hto, hweight⟩

/-- Shortest paths between two nodes take the same time in both directions. -/
theorem ShortestPath.total_eq {g : TransferGraph D} (hback : ∀ u v c, g.Edge u v c → g.Edge v u c) {a b : Nat}
    {path way : GraphPath} (hp : ShortestPath g a b path) (hw : ShortestPath g b a way) :
    path.totalMinutes = way.totalMinutes := by
  obtain ⟨l, hl⟩ := hp.attained
  obtain ⟨l', hl'⟩ := hw.attained
  have h1 : path.totalMinutes ≤ way.totalMinutes := hp.minimal _ _ (hl'.reverse hback)
  have h2 : way.totalMinutes ≤ path.totalMinutes := hw.minimal _ _ (hl.reverse hback)
  exact Int.le_antisymm h1 h2

theorem graphFindPath_indices {mem : Bool} {g : TransferGraph D} {a b : Int} {path : GraphPath}
    (h : graphFindPath mem g a b = some path) :
    ∃ i j : Nat, a = i ∧ b = j ∧ i < g.nodeCount ∧ j < g.nodeCount := by
  unfold graphFindPath at h
  by_cases hbad : a < 0 ∨ b < 0 ∨ a ≥ g.nodeCount ∨ b ≥ g.nodeCount
  · rw [if_pos hbad] at h
    cases h
  · exact ⟨a.toNat, b.toNat, by omega, by omega, by omega, by omega⟩

/-- The time between two nodes of a loaded graph is the same in both directions. -/
theorem travelTime_symmetric [CDouble D] (files : CsvFiles) {a b : Int}
    (hw : (loadedData files : AppData D).graph.totalWeight < inf) {mem mem' : Bool} {path way : GraphPath}
    (hpath : graphFindPath mem (loadedData files : AppData D).graph a b = some path)
    (hway : graphFindPath mem' (loadedData files : AppData D).graph b a = some way) :
    path.totalMinutes = way.totalMinutes := by
  have hg := graphOk_loadedData (D := D) files
  have hmerge := dataLoaderLoad_minMerge (D := D) files
  obtain ⟨i, j, rfl, rfl, hi, hj⟩ := graphFindPath_indices hpath
  exact ShortestPath.total_eq hmerge.edge_back (graphFindPath_sound hi hj hg hw hpath)
    (graphFindPath_sound hj hi hg hw hway)

/-- Three stations in a row. -/
def rowFiles : CsvFiles :=
  { kioskFiles with
    subwayStations := some (utf8 "station_id,station_name,line_no\nT,T,2\nU,U,2\nV,V,2\n")
    subwayDistances := some
      (utf8 "from_station_id,to_station_id,distance_km,estimated_minutes\nT,U,,3\nU,V,,4\nV,U,,2\n") }

theorem travelTime_row : ∃ path way,
    graphFindPath true (loadedData rowFiles : AppData ℚ).graph 1 3 = some path ∧
      graphFindPath true (loadedData rowFiles : AppData ℚ).graph 3 1 = some way ∧
      path.totalMinutes = way.totalMinutes := by
  have hpath : (graphFindPath true (loadedData rowFiles : AppData ℚ).graph 1 3).isSome = true := by decide +kernel
  have hway : (graphFindPath true (loadedData rowFiles : AppData ℚ).graph 3 1).isSome = true := by decide +kernel
  obtain ⟨path, hpath⟩ := Option.isSome_iff_exists.mp hpath
  obtain ⟨way, hway⟩ := Option.isSome_iff_exists.mp hway
  exact ⟨path, way, hpath, hway, travelTime_symmetric rowFiles (by decide +kernel) hpath hway⟩

end Transit
