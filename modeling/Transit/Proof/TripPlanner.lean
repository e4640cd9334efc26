import Transit.Proof.Itineraries
import Transit.Proof.PairRequests
import Transit.Proof.PathLength
import Transit.Proof.TransferDecode

/-!
# From the prompts of the client to a quickest trip, and back

The two inputs of menu 4 go through the request line, the server's trimming, the
resolution of names, the path search and the response; what the client takes out
of the response is compared with the records of the CSV files.

* `tripPlanner_quickest`: two ids typed at the prompts are answered with the
  places, the segments and the minutes of a quickest trip through the records.
-/

namespace Transit

open Framework

variable {D : Type} [CDouble D]

/-- The texts of a graph keep their place in a response. -/
structure CleanGraph (g : TransferGraph D) : Prop where
  nodes : ∀ node ∈ g.nodes, Label node.nodeId ∧ Label node.nodeName ∧ Label node.nodeType
  edges : ∀ u, ∀ e ∈ g.edgesAt u, Label e.routeNo

/-- Two ids of the graph are typed at the prompts, as trimming leaves them. -/
structure Asks (data : AppData D) (console : List Byte) (x y : Str) (left : List Byte) : Prop where
  prompts : ∃ rest, readLinePrompt 256 console = some (x, rest) ∧ readLinePrompt 256 rest = some (y, left)
  ids : x ∈ data.graph.ids ∧ y ∈ data.graph.ids
  trimmed : strTrim x = x ∧ strTrim y = y

omit [CDouble D] in
theorem CleanGraph.id {g : TransferGraph D} (h : CleanGraph g) {x : Str} (hx : x ∈ g.ids) :
    Label x ∧ x.length ≤ maxIdLen - 1 := by
  obtain ⟨node, hnode, rfl⟩ := List.mem_map.mp hx
  exact ⟨(h.nodes node hnode).1, node.nodeId.2⟩

omit [CDouble D] in
/-- Every segment of a shortest path has the label of an edge. -/
theorem CleanGraph.pathLabels {data : AppData D} (h : CleanGraph data.graph) {a b : Nat} {path : GraphPath}
    (hpath : ShortestPath data.graph a b path) (hrecord : PathRecord data.graph path) : PathLabels data path where
  nodes node hnode := by
    obtain ⟨i, -, hi⟩ := List.mem_filterMap.mp hnode
    exact h.nodes node (List.mem_of_getElem? hi)
  routes route hroute := by
    obtain ⟨i, hi, rfl⟩ := List.getElem_of_mem hroute
    rw [hrecord.routes_length] at hi
    obtain ⟨u, v, e, -, -, he, -, -, hlabel⟩ := hpath.segments i (by omega)
    rw [List.getElem?_eq_getElem (by rw [hrecord.routes_length]; exact hi), Option.some_inj] at hlabel
    rw [hlabel]
    exact h.edges u e he

omit [CDouble D] in
/-- The two ids arrive as they were typed. -/
theorem Asks.pairFits {data : AppData D} {console left : List Byte} {x y : Str} (h : Asks data console x y left)
    (hclean : CleanGraph data.graph) : PairFits x y := by
  obtain ⟨hx, hxlen⟩ := hclean.id h.ids.1
  obtain ⟨-, hylen⟩ := hclean.id h.ids.2
  have hsize : maxIdLen = 32 := rfl
  exact ⟨hx.separators itemSep (by decide), by omega, Flush.of_strTrim h.trimmed.1, Flush.of_strTrim h.trimmed.2⟩

/-- A label that trimming leaves alone is not blank. -/
theorem not_blank_of_label {x : Str} (h : Label x) (htrim : strTrim x = x) : strIsBlank x = false := by
  obtain ⟨hhead, -⟩ := strTrim_eq_self_iff.mp htrim
  obtain ⟨b, rest, rfl⟩ := List.exists_cons_of_ne_nil h.ne_nil
  unfold strIsBlank
  rw [List.all_cons, hhead b rfl, Bool.false_and]

/-- The path that a request of two ids asks for is the one between their nodes. -/
theorem requestedPath_ids {data : AppData D} {mem : Bool} {body x y : Str} {path : GraphPath}
    (hpair : requestPair body = some (x, y)) (hx : x ∈ data.graph.ids) (hy : y ∈ data.graph.ids)
    (hbx : strIsBlank x = false) (hby : strIsBlank y = false) (hids : data.graph.ids.Nodup)
    (h : requestedPath mem data body = some path) :
    ∃ a b : Nat, graphFindNode data.graph x = a ∧ graphFindNode data.graph y = b ∧
      a < data.graph.nodeCount ∧ b < data.graph.nodeCount ∧ graphFindPath mem data.graph a b = some path := by
  obtain ⟨a, ha, hida⟩ := resolveNodeByKeyword_id hbx hx
  obtain ⟨b, hb, hidb⟩ := resolveNodeByKeyword_id hby hy
  refine ⟨a, b, graphFindNode_of_getElem? hids hida, graphFindNode_of_getElem? hids hidb, ?_, ?_, ?_⟩
  · rw [← ids_length]
    exact (List.getElem?_eq_some_iff.mp hida).1
  · rw [← ids_length]
    exact (List.getElem?_eq_some_iff.mp hidb).1
  · unfold requestedPath at h
    split at h
    · cases h
    · unfold requestPair at hpair
      obtain ⟨parts, hcut, hparts⟩ := Option.map_eq_some_iff.mp hpair
      rw [Prod.mk.injEq] at hparts
      rw [hcut] at h
      dsimp only at h
      unfold transferPath at h
      rw [hparts.1, hparts.2, ha, hb] at h
      exact h

/-- What the traveller is told: a quickest trip through the records, with its
places, segments and minutes. -/
theorem tripPlanner_quickest (files : CsvFiles) (hw : (loadedData files : AppData D).graph.totalWeight < inf)
    (hclean : CleanGraph (loadedData files : AppData D).graph) {console left : List Byte} {x y : Str}
    (h : Asks (loadedData files : AppData D) console x y left) (env : Env) (fs : UserFiles) :
    ∃ request, runRouteSearchMenu 256 console = ([request], left) ∧
      let data := (loadedData files : AppData D)
      let reply := (routeRequest data env fs request maxPacketSize).1
      reply.code = .ok → reply.response.getLast? = some packetTerm →
        ∃ path, Quickest data x y path ∧ transferView reply.response = some (pathView data path) := by
  obtain ⟨rest, hx, hy⟩ := h.prompts
  have hix := consoleInput (by decide) hx
  have hiy := consoleInput (by decide) hy
  have hbx := not_blank_of_label (hclean.id h.ids.1).1 h.trimmed.1
  have hby := not_blank_of_label (hclean.id h.ids.2).1 h.trimmed.2
  have hne := ne_nil_of_not_blank hby
  have hsplit := splitRequest_pair (by decide : pktTransferReq ∈ pairRequests) hix hiy hne
  have hpair := (requestPair_eq_iff hix hiy hne).mpr (h.pairFits hclean)
  refine ⟨requestLine pktTransferReq (x ++ [itemSep] ++ y), ?_, ?_⟩
  · unfold runRouteSearchMenu
    simp only [hx, hy, hbx, hby, Bool.or_self, Bool.false_eq_true, ↓reduceIte]
  · intro data reply hok hend
    have hreply : reply = handleTransfer env.mem data (x ++ [itemSep] ++ y) maxPacketSize := by
      show (routeRequest _ _ _ _ _).1 = _
      rw [routeRequest_transfer (by rw [hsplit]), hsplit]
    rw [hreply] at hok hend ⊢
    have hg := graphOk_loadedData (D := D) files
    have hgraph : networkGraph data = data.graph := networkGraph_loaded files
    obtain ⟨path, hpath⟩ := exists_requestedPath hok
    obtain ⟨a, b, ha, hb, halt, hblt, hfound⟩ := requestedPath_ids hpair h.ids.1 h.ids.2 hbx hby
      (show data.graph.ids.Nodup by rw [← hgraph]; exact (merged_networkGraph data).ids) hpath
    have hquick : Quickest data x y path := by
      refine quickest_of_networkPath (by rw [hgraph]; exact hw) (show networkPath env.mem data x y = some path from ?_)
      unfold networkPath
      rw [hgraph, ha, hb]
      exact hfound
    have hshape := requestedPath_shape hpath
    have hlabels := hclean.pathLabels (graphFindPath_sound halt hblt hg hw hfound) hshape.record
    have hminutes : ∀ m ∈ path.segmentMinutes, IsInt32 m := fun m hm => by
      rcases hshape.minutes m hm with rfl | ⟨u, e, he, rfl⟩
      · exact ⟨by decide, by decide⟩
      · have hle := hg.edge_le_total ⟨e, he, rfl, rfl⟩
        have hpos := (hg.edges u).weight e he
        have hinf : inf = 536870911 := by decide
        exact ⟨by omega, by omega⟩
    refine ⟨path, hquick, ?_⟩
    rw [handleTransfer_some hpath] at hend ⊢
    have hfit := fits_of_getLast? hshape.record hlabels.texts hend
    rw [transferResponse_eq hshape.record, if_pos hfit]
    exact transferView_eq hminutes hlabels hfit

theorem cleanGraph_row : CleanGraph (loadedData rowFiles : AppData ℚ).graph := by
  refine ⟨by decide +kernel, fun u e he => ?_⟩
  have hall : ∀ u < 4, ∀ e ∈ (loadedData rowFiles : AppData ℚ).graph.edgesAt u, Label e.routeNo := by decide +kernel
  by_cases hu : u < 4
  · exact hall u hu e he
  · rw [edgesAt_of_le (show (loadedData rowFiles : AppData ℚ).graph.nodeCount ≤ u by
      rw [show (loadedData rowFiles : AppData ℚ).graph.nodeCount = 4 by decide +kernel]; omega)] at he
    cases he

theorem tripPlanner_quickest_row : ∃ path, Quickest (loadedData rowFiles : AppData ℚ) (utf8 "T") (utf8 "V") path ∧
    transferView (routeRequest (loadedData rowFiles : AppData ℚ) ⟨.allOk, true, utf8 "2024-01-01 09:30:00"⟩
      ⟨none, none, none, none⟩ (utf8 "TRANSFER_REQ|T:V\n") maxPacketSize).1.response =
        some (pathView (loadedData rowFiles : AppData ℚ) path) := by
  have hsent : runRouteSearchMenu 256 (utf8 "T\nV\n") = ([utf8 "TRANSFER_REQ|T:V\n"], []) := by decide
  have hasks : Asks (loadedData rowFiles : AppData ℚ) (utf8 "T\nV\n") (utf8 "T") (utf8 "V") [] :=
    ⟨⟨utf8 "V\n", by decide, by decide⟩, by decide +kernel, by decide⟩
  obtain ⟨request, hrequest, hreply⟩ := tripPlanner_quickest rowFiles (by decide +kernel) cleanGraph_row hasks
    ⟨.allOk, true, utf8 "2024-01-01 09:30:00"⟩ ⟨none, none, none, none⟩
  obtain rfl : request = utf8 "TRANSFER_REQ|T:V\n" := by
    rw [hsent, Prod.mk.injEq, List.cons.injEq] at hrequest
    exact hrequest.1.1.symm
  exact hreply (by decide +kernel) (by decide +kernel)

end Transit
