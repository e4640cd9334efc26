import Transit.Proof.GraphBuild

/-!
# The store the server works on

`LoadedStore` is what every handler may assume of the store that
`data_loader_load` has built from any files: no text in it, the names and the
routes of its graph included, holds a line feed.
-/

namespace Transit

variable {D : Type}

structure PlainGraph (g : TransferGraph D) : Prop where
  nodes : ∀ node ∈ g.nodes, Plain node.nodeId ∧ Plain node.nodeName ∧ Plain node.nodeType
  edges : ∀ i, ∀ e ∈ g.edgesAt i, Plain e.routeNo

structure LoadedStore (data : AppData D) : Prop where
  records : PlainData data
  graph : PlainGraph data.graph

/-! ## The texts of the graph

What holds of the names of stops and stations and of the labels of all
contributions holds of the texts of the graph that is built of them. -/

section

variable {P : Str → Prop}

structure GraphTexts (P : Str → Prop) (g : TransferGraph D) : Prop where
  nodes : ∀ node ∈ g.nodes, P node.nodeId ∧ P node.nodeName ∧ P node.nodeType
  edges : ∀ i, ∀ e ∈ g.edgesAt i, P e.routeNo

theorem GraphTexts.addNode {g : TransferGraph D} (h : GraphTexts P g) {nodeId nodeName nodeType : Str}
    (h1 : P (CStr.copy maxIdLen nodeId)) (h2 : P (CStr.copy maxNameLen nodeName))
    (h3 : P (CStr.copy maxNodeTypeLen nodeType)) (lat lng : D) :
    GraphTexts P (graphAddNode true g nodeId nodeName nodeType lat lng).1 := by
  rcases graphAddNode_cases true g nodeId nodeName nodeType lat lng with he | ⟨he, -⟩
  · rw [he]; exact h
  · refine ⟨fun node hn => ?_, fun i e hm => ?_⟩
    · rw [he, List.mem_append, List.mem_singleton] at hn
      rcases hn with hn | rfl
      · exact h.nodes node hn
      · exact ⟨h1, h2, h3⟩
    · rw [edgesAt_of_append rfl he] at hm
      exact h.edges i e hm

theorem improveEdge_keeps {j : Nat} {w : Int} {r : Str} (hr : P (CStr.copy maxRouteLen r)) {es : List GraphEdge}
    (h : ∀ e ∈ es, P e.routeNo) : ∀ e ∈ improveEdge j w r es, P e.routeNo := by
  induction es with
  | nil => exact h
  | cons a es ih =>
    simp only [improveEdge]
    rw [List.forall_mem_cons] at h
    split
    · rw [List.forall_mem_cons]
      refine ⟨?_, h.2⟩
      split
      · exact hr
      · exact h.1
    · rw [List.forall_mem_cons]
      exact ⟨h.1, ih h.2⟩

theorem GraphTexts.addEdge {g : TransferGraph D} (h : GraphTexts P g) {r : Str} (hr : P (CStr.copy maxRouteLen r))
    (a b w : Int) : GraphTexts P (graphAddEdge true g a b w r).1 := by
  rcases graphAddEdge_cases true g a b w r with he | ⟨i, j, -, -, hi, -, -, he⟩
  · rw [he]; exact h
  · rw [he]
    refine ⟨fun node hn => ?_, fun k => ?_⟩
    · obtain ⟨m, hm, rfl⟩ := List.mem_iff_getElem.mp hn
      simp only [TransferGraph.modifyEdges, List.length_modify] at hm
      simp only [TransferGraph.modifyEdges, List.getElem_modify]
      have hold := h.nodes g.nodes[m] (List.getElem_mem hm)
      split <;> exact hold
    · rw [edgesAt_modifyEdges hi]
      split
      · simp only [Transit.addEdge]
        split
        · exact improveEdge_keeps hr (h.edges i)
        · rw [List.forall_mem_cons]
          exact ⟨hr, h.edges i⟩
      · exact h.edges k

/-- The names in the nodes of the graph. -/
structure NodeTexts (P : Str → Prop) (data : AppData D) : Prop where
  stops : ∀ s ∈ data.stops, P s.stopId ∧ P s.stopName
  stations : ∀ s ∈ data.stations, P s.stationId ∧ P s.stationName
  kinds : P (utf8 "bus_stop") ∧ P (utf8 "subway_station")

theorem PlainData.nodeTexts {data : AppData D} (h : PlainData data) : NodeTexts Plain data :=
  ⟨h.stops, fun s hs => ⟨(h.stations s hs).1, (h.stations s hs).2.1⟩, by decide, by decide⟩

theorem graphTexts_recordNodes {data : AppData D} (hgraph : data.graph = graphInit) (h : NodeTexts P data) :
    GraphTexts P (recordNodes data) := by
  have hinit : GraphTexts P data.graph := by
    rw [hgraph]
    exact ⟨by simp [graphInit], fun i => by
      rw [edgesAt_of_le (g := graphInit) (Nat.zero_le i)]; simp⟩
  have hid : ∀ {n : Nat} (s : CStr n), P s.val → P (CStr.copy n s.val) := fun s hs => by
    rwa [CStr.copy_of_le s.2]
  have hkinds :
      P (CStr.copy maxNodeTypeLen (utf8 "bus_stop")) ∧ P (CStr.copy maxNodeTypeLen (utf8 "subway_station")) := by
    rw [CStr.copy_of_le (by decide), CStr.copy_of_le (by decide)]
    exact h.kinds
  refine List.foldlRecOn _ _ (List.foldlRecOn _ _ hinit fun g hg s hs => ?_) fun g hg s hs => ?_
  · exact hg.addNode (hid _ (h.stops s hs).1) (hid _ (h.stops s hs).2) hkinds.1 ..
  · exact hg.addNode (hid _ (h.stations s hs).1) (hid _ (h.stations s hs).2) hkinds.2 ..

section

variable [CDouble D]

/-- The labels that the rules give. -/
structure RuleTexts (P : Str → Prop) (data : AppData D) : Prop where
  routes : ∀ route ∈ data.routes, P route.routeNo
  distances : ∀ d ∈ data.subwayDistances, P d.lineNo
  lines : ∀ s ∈ data.stations, ∀ other line, commonLineName s.lineNo other maxRouteLen = some line → P line
  words : P (utf8 "SUBWAY") ∧ P (utf8 "TRANSFER")

theorem RuleTexts.contributions {data : AppData D} (h : RuleTexts P data) : ∀ c ∈ contributions data, P c.label := by
  intro c hc
  simp only [Transit.contributions, contributionsBy, List.mem_append] at hc
  rcases hc with ((hc | hc) | hc) | hc
  · obtain ⟨route, hr, hc⟩ := List.mem_flatMap.mp hc
    obtain ⟨i, hi, rfl⟩ := List.mem_iff_getElem.mp hc
    simp only [routeContributions, List.getElem_zipWith]
    exact h.routes route hr
  · obtain ⟨distance, hd, rfl⟩ := List.mem_map.mp hc
    simp only [distanceContribution]
    split
    · exact h.words.1
    · exact h.distances distance hd
  · split at hc
    · cases hc
    · have hs : ∀ stations : List (StationNode D),
          (∀ s ∈ stations, ∀ other line, commonLineName s.lineNo other maxRouteLen = some line → P line) →
          ∀ c ∈ sharedLineContributions leadingLine stations, P c.label := by
        intro stations hp c hc
        induction stations with
        | nil => cases hc
        | cons station rest ih =>
          rw [List.forall_mem_cons] at hp
          rcases List.mem_append.mp hc with hc | hc
          · obtain ⟨other, -, hmap⟩ := List.mem_filterMap.mp hc
            obtain ⟨line, hline, rfl⟩ := Option.map_eq_some_iff.mp hmap
            exact hp.1 _ line ((commonLineName_eq station.lineNo.2 other.lineNo.2).trans hline)
          · exact ih hp.2 hc
      exact hs _ h.lines c hc
  · obtain ⟨stop, -, hc⟩ := List.mem_flatMap.mp hc
    have hlabel : c.label = utf8 "TRANSFER" := by
      simp only [stopContributions] at hc
      split at hc
      · cases hc
      · split at hc
        · obtain ⟨station, -, rfl⟩ := List.mem_map.mp hc; rfl
        · split at hc
          · rw [List.mem_singleton.mp hc]; rfl
          · cases hc
    rw [hlabel]
    exact h.words.2

theorem graphTexts_dataLoaderBuildGraph {data : AppData D} (hgraph : data.graph = graphInit) (h : NodeTexts P data)
    (hlabels : ∀ c ∈ contributions data, P (CStr.copy maxRouteLen c.label)) :
    GraphTexts P (dataLoaderBuildGraph data).1.graph := by
  rw [dataLoaderBuildGraph_graph hgraph]
  refine List.foldlRecOn _ _ (graphTexts_recordNodes hgraph h) fun g hg c hc => ?_
  exact (hg.addEdge (hlabels c hc) ..).addEdge (hlabels c hc) ..

end

end

/-! ## No line feeds -/

theorem Plain.commonLineName {a b line : Str} {n : Nat} (h : Plain a)
    (hl : commonLineName a b n = some line) : Plain line := by
  have htok : ∀ fuel cursor, Plain cursor → ∀ t ∈ csvTokens fuel cursor, Plain t := by
    intro fuel
    induction fuel with
    | zero => intro cursor _ t ht; cases ht
    | succ fuel ih =>
      intro cursor hc t ht
      simp only [csvTokens, nextCsvToken] at ht
      have hd : Plain (cursor.dropWhile (· == 32)) := hc.of_subset (List.dropWhile_subset _)
      split at ht
      · cases ht
      · rename_i hnext
        split at hnext
        · cases hnext
        · split at hnext
          · cases hnext
          · simp only [Option.some.injEq, Prod.mk.injEq] at hnext
            obtain ⟨rfl, rfl⟩ := hnext
            rcases List.mem_cons.mp ht with rfl | ht
            · exact ((hd.of_subset (List.takeWhile_subset _)).of_subset (List.take_subset _ _)).strTrim
            · exact ih _ ((hd.of_subset (List.dropWhile_subset _)).of_subset (List.tail_sublist _).subset) t ht
  obtain ⟨token, ht, rfl⟩ := Option.map_eq_some_iff.mp hl
  exact (htok _ _ h token (List.mem_of_find?_eq_some ht)).snprintf _

/-- Whatever the CSV files hold. -/
theorem loadedStore [CDouble D] (files : CsvFiles) : LoadedStore (dataLoaderLoad files : AppData D × Bool).1 := by
  have h := loading_loadRecords (D := D) files
  have hlabels : RuleTexts Plain (loadRecords files : AppData D) :=
    ⟨fun route hr => (h.plain.routes route hr).1, h.plain.distances,
      fun s hs _ line hl => Plain.commonLineName (h.plain.stations s hs).2.2.1 hl, by decide, by decide⟩
  have hgraph := graphTexts_dataLoaderBuildGraph h.graph h.plain.nodeTexts fun c hc =>
    (hlabels.contributions c hc).copy _
  rw [dataLoaderLoad_eq]
  exact ⟨⟨h.plain.1, h.plain.2, h.plain.3, h.plain.4, h.plain.5, h.plain.6, h.plain.7⟩, ⟨hgraph.nodes, hgraph.edges⟩⟩

end Transit
