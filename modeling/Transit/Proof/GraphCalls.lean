import Transit.Proof.GraphBuild

/-!
# The representation of the graph over any sequence of calls

`GraphOk` says what holds of the edges. This file adds the nodes: the ids only
grow at their end (`ids_foldl_runCall`), so the index that `graph_add_node`
hands out for an id is the one `graph_find_node` returns for it from then on.

* `graphCalls_representation`: all of it, for every sequence of calls.
-/

namespace Transit

variable {D : Type}

/-- The id of an added node fits its field. -/
def GraphCall.idFits : GraphCall D → Prop
  | .addNode _ nodeId _ _ _ _ => nodeId.length ≤ maxIdLen - 1
  | .addEdge .. => True

/-- The invariant of the representation. -/
structure GraphRep (g : TransferGraph D) : Prop extends GraphOk g where
  ids_nodup : g.ids.Nodup

/-! ## Nodes -/

/-- What `graph_add_node` can do, on the ids: hand out the index of the id,
which it appends if it is new, or fail. -/
theorem graphAddNode_index (mem : Bool) (g : TransferGraph D) {nodeId : Str}
    (hid : nodeId.length ≤ maxIdLen - 1) (nodeName nodeType : Str) (lat lng : D) :
    ((graphAddNode mem g nodeId nodeName nodeType lat lng).1.ids = g.ids ∧ nodeId ∈ g.ids ∧
        (graphAddNode mem g nodeId nodeName nodeType lat lng).2 = graphFindNode g nodeId) ∨
      ((graphAddNode mem g nodeId nodeName nodeType lat lng).1.ids = g.ids ++ [nodeId] ∧
        nodeId ∉ g.ids ∧ (graphAddNode mem g nodeId nodeName nodeType lat lng).2 = g.ids.length) ∨
      (mem = false ∧ (graphAddNode mem g nodeId nodeName nodeType lat lng).1 = g ∧
        (graphAddNode mem g nodeId nodeName nodeType lat lng).2 = -1) := by
  by_cases hmem : nodeId ∈ g.ids
  · have hf : graphFindNode g nodeId ≥ 0 := Int.not_lt.mp fun h => graphFindNode_neg.mp h hmem
    refine .inl ⟨?_, hmem, ?_⟩
    · simp only [graphAddNode, hf, ↓reduceIte]
    · simp only [graphAddNode, hf, ↓reduceIte]
  · have hf : ¬ graphFindNode g nodeId ≥ 0 := Int.not_le.mpr (graphFindNode_neg.mpr hmem)
    simp only [graphAddNode, hf, ↓reduceIte]
    cases hr : graphReserve mem g (g.nodeCount + 1) with
    | none =>
      have hm : mem = false := by
        cases mem with
        | false => rfl
        | true => simp only [graphReserve, ↓reduceIte] at hr; split at hr <;> cases hr
      exact .inr (.inr ⟨hm, rfl, rfl⟩)
    | some g' =>
      have hnodes := (graphReserve_spec hr).1
      refine .inr (.inl ⟨?_, hmem, ?_⟩)
      · simp only [TransferGraph.ids, hnodes, List.map_append, List.map_cons, List.map_nil,
          CStr.copy_of_le hid]
      · show ((g'.nodeCount : Nat) : Int) = g.ids.length
        rw [ids_length, TransferGraph.nodeCount, hnodes]
        rfl

/-- A call only appends ids. -/
theorem ids_runCall (g : TransferGraph D) (call : GraphCall D) : g.ids <+: (runCall g call).ids := by
  cases call with
  | addNode mem nodeId nodeName nodeType lat lng =>
    rcases graphAddNode_cases mem g nodeId nodeName nodeType lat lng with h | ⟨h, -⟩
    · show g.ids <+: (graphAddNode mem g nodeId nodeName nodeType lat lng).1.ids
      simp only [h, List.prefix_refl]
    · simp only [runCall, TransferGraph.ids, h, List.map_append]
      exact List.prefix_append _ _
  | addEdge mem a b w r =>
    show g.ids <+: (graphAddEdge mem g a b w r).1.ids
    simp only [graphAddEdge_nodes, List.prefix_refl]

/-- So does a run of calls. -/
theorem ids_foldl_runCall (calls : List (GraphCall D)) (g : TransferGraph D) :
    g.ids <+: (calls.foldl runCall g).ids := by
  induction calls generalizing g with
  | nil => exact List.prefix_refl _
  | cons call calls ih => exact (ids_runCall g call).trans (ih (runCall g call))

/-! ## The invariant -/

theorem GraphRep.runCall {g : TransferGraph D} (h : GraphRep g) {call : GraphCall D}
    (hc : call.idFits) : GraphRep (runCall g call) := by
  refine ⟨h.toGraphOk.runCall call, ?_⟩
  cases call with
  | addNode mem nodeId nodeName nodeType lat lng =>
    simp only [Transit.runCall]
    rcases graphAddNode_index mem g hc nodeName nodeType lat lng with
      ⟨hids, -, -⟩ | ⟨hids, hnew, -⟩ | ⟨-, hg, -⟩
    · rw [hids]; exact h.ids_nodup
    · rw [hids, List.nodup_append]
      refine ⟨h.ids_nodup, List.nodup_singleton _, fun x hx y hy => ?_⟩
      rw [List.mem_singleton.mp hy]
      exact fun hxy => hnew (hxy ▸ hx)
    · rw [hg]; exact h.ids_nodup
  | addEdge mem a b w r =>
    simp only [Transit.runCall]
    rw [graphAddEdge_nodes]
    exact h.ids_nodup

theorem graphRep_runCalls {calls : List (GraphCall D)} (hc : ∀ call ∈ calls, call.idFits) :
    GraphRep (runCalls calls) := by
  suffices ∀ g : TransferGraph D, GraphRep g → GraphRep (calls.foldl runCall g) from
    this graphInit ⟨graphOk_init, List.nodup_nil⟩
  induction calls with
  | nil => exact fun g h => h
  | cons call calls ih =>
    obtain ⟨hcall, hcalls⟩ := List.forall_mem_cons.mp hc
    exact fun g h => ih hcalls _ (h.runCall hcall)

/-- After a call that hands out an index, the id has this index. -/
theorem GraphRep.graphFindNode_graphAddNode {g : TransferGraph D} (h : GraphRep g) {mem : Bool}
    {nodeId nodeName nodeType : Str} {lat lng : D} (hid : nodeId.length ≤ maxIdLen - 1)
    (hret : 0 ≤ (graphAddNode mem g nodeId nodeName nodeType lat lng).2) :
    ∃ i : Nat, (graphAddNode mem g nodeId nodeName nodeType lat lng).2 = i ∧
      (graphAddNode mem g nodeId nodeName nodeType lat lng).1.ids[i]? = some nodeId := by
  rcases graphAddNode_index mem g hid nodeName nodeType lat lng with
    ⟨hids, hold, hi⟩ | ⟨hids, -, hi⟩ | ⟨-, -, hi⟩
  · obtain ⟨i, hx⟩ := List.mem_iff_getElem?.mp hold
    exact ⟨i, by rw [hi, graphFindNode_of_getElem? h.ids_nodup hx], by rw [hids, hx]⟩
  · exact ⟨g.ids.length, hi, by rw [hids]; simp⟩
  · omega

/-- Indices out of range and self loops change nothing. -/
theorem graphAddEdge_rejected {mem : Bool} {g : TransferGraph D} {a b w : Int} {r : Str}
    (h : a < 0 ∨ b < 0 ∨ a ≥ g.nodeCount ∨ b ≥ g.nodeCount ∨ a = b) :
    (graphAddEdge mem g a b w r).1 = g := by
  rcases graphAddEdge_cases mem g a b w r with he | ⟨i, j, rfl, rfl, hi, hj, hij, -⟩
  · exact he
  · omega

/-- `graph_add_node` and `graph_add_edge` keep the representation: for every
sequence of calls, at most `capacity` nodes with distinct ids and edges as
`EdgesOk` says; the index returned for an id is the one found for it after any
further calls, and there is one when the allocation succeeds; rejected edges
change nothing. -/
theorem graphCalls_representation (calls : List (GraphCall D)) (hc : ∀ call ∈ calls, call.idFits) :
    (runCalls calls).nodeCount ≤ (runCalls calls).capacity ∧
    (runCalls calls).ids.Nodup ∧
    (∀ i, EdgesOk (runCalls calls).nodeCount i ((runCalls calls).edgesAt i)) ∧
    (∀ before after mem nodeId nodeName nodeType lat lng,
      calls = before ++ .addNode mem nodeId nodeName nodeType lat lng :: after →
      let index := (graphAddNode mem (runCalls before) nodeId nodeName nodeType lat lng).2
      (mem = true → 0 ≤ index) ∧
      (0 ≤ index → graphFindNode (runCalls calls) nodeId = index)) ∧
    (∀ (mem : Bool) (a b w : Int) (r : Str), a < 0 ∨ b < 0 ∨ a ≥ (runCalls calls).nodeCount ∨
        b ≥ (runCalls calls).nodeCount ∨ a = b →
      (graphAddEdge mem (runCalls calls) a b w r).1 = runCalls calls) := by
  have hrep := graphRep_runCalls hc
  refine ⟨hrep.room, hrep.ids_nodup, hrep.edges, ?_, fun mem a b w r h => graphAddEdge_rejected h⟩
  intro before after mem nodeId nodeName nodeType lat lng hcalls index
  have hfits : ∀ call ∈ before ++ .addNode mem nodeId nodeName nodeType lat lng :: after,
      call.idFits := hcalls ▸ hc
  have hbefore : GraphRep (runCalls before) :=
    graphRep_runCalls fun call h => hfits call (List.mem_append_left _ h)
  have hid : nodeId.length ≤ maxIdLen - 1 :=
    hfits (.addNode mem nodeId nodeName nodeType lat lng) (by simp)
  constructor
  · rintro rfl
    show 0 ≤ (graphAddNode true (runCalls before) nodeId nodeName nodeType lat lng).2
    rcases graphAddNode_index true (runCalls before) hid nodeName nodeType lat lng with
      ⟨-, hold, hi⟩ | ⟨-, -, hi⟩ | ⟨hf, -, -⟩
    · rw [hi]
      exact Int.not_lt.mp fun h => graphFindNode_neg.mp h hold
    · omega
    · cases hf
  · intro hret
    obtain ⟨i, hi, hx⟩ := hbefore.graphFindNode_graphAddNode hid hret
    have hgrow : (graphAddNode mem (runCalls before) nodeId nodeName nodeType lat lng).1.ids <+:
        (runCalls calls).ids := by
      have hrun : runCalls calls = after.foldl runCall
          (graphAddNode mem (runCalls before) nodeId nodeName nodeType lat lng).1 := by
        rw [hcalls]
        exact List.foldl_append
      rw [hrun]
      exact ids_foldl_runCall after _
    have hlt := (List.getElem?_eq_some_iff.mp hx).1
    show _ = (graphAddNode mem (runCalls before) nodeId nodeName nodeType lat lng).2
    rw [hi]
    apply graphFindNode_of_getElem? hrep.ids_nodup
    rw [← hx, List.prefix_iff_getElem?.mp hgrow i hlt, List.getElem?_eq_getElem hlt]

/-- Two nodes with an edge, and the first one asked for again. -/
def revisitCalls : List (GraphCall Unit) :=
  [.addNode true (utf8 "S1") [] [] () (), .addNode true (utf8 "S2") [] [] () (),
    .addEdge true 0 1 5 (utf8 "B1"), .addNode true (utf8 "S1") [] [] () ()]

theorem graphCalls_representation_revisit :
    (runCalls revisitCalls).nodeCount = 2 ∧ (runCalls revisitCalls).ids.Nodup ∧
    graphFindNode (runCalls revisitCalls) (utf8 "S1") = 0 := by
  have hfits : ∀ call ∈ revisitCalls, call.idFits := by
    simp only [revisitCalls, List.forall_mem_cons, GraphCall.idFits]
    exact ⟨by decide, by decide, trivial, by decide, List.forall_mem_nil _⟩
  obtain ⟨-, hids, -, hfound, -⟩ := graphCalls_representation revisitCalls hfits
  obtain ⟨-, hfirst⟩ := hfound [] _ true (utf8 "S1") [] [] () () rfl
  exact ⟨rfl, hids, hfirst (by decide)⟩

end Transit
