import Transit.Common.Graph
import Mathlib.Data.List.Nodup
import Mathlib.Tactic.Common

/-!
# What `graph_add_node` and `graph_add_edge` keep

`GraphOk` holds of every graph that calls of the two functions build from an
empty one (`graphOk_runCalls`), whatever their arguments and whether or not
their allocations succeed: edges lead to nodes of the graph other than their
own, take at least a minute, and no node has two edges to the same node.
-/

namespace Transit

variable {D : Type}

/-- The edges out of node `i` of a graph of `n` nodes. -/
structure EdgesOk (n i : Nat) (es : List GraphEdge) : Prop where
  bound : ∀ e ∈ es, e.toIndex < n
  noLoop : ∀ e ∈ es, e.toIndex ≠ i
  weight : ∀ e ∈ es, 1 ≤ e.weightMin
  unique : (es.map (·.toIndex)).Nodup

structure GraphOk (g : TransferGraph D) : Prop where
  room : g.nodeCount ≤ g.capacity
  edges : ∀ i, EdgesOk g.nodeCount i (g.edgesAt i)

/-- A call that changes a graph; `mem` says whether its allocation succeeds. -/
inductive GraphCall (D : Type) where
  | addNode (mem : Bool) (nodeId nodeName nodeType : Str) (lat lng : D)
  | addEdge (mem : Bool) (fromIndex toIndex weightMin : Int) (routeNo : Str)

def runCall (g : TransferGraph D) : GraphCall D → TransferGraph D
  | .addNode mem nodeId nodeName nodeType lat lng =>
    (graphAddNode mem g nodeId nodeName nodeType lat lng).1
  | .addEdge mem fromIndex toIndex weightMin routeNo =>
    (graphAddEdge mem g fromIndex toIndex weightMin routeNo).1

/-- The graph that calls build from an empty one. -/
def runCalls (calls : List (GraphCall D)) : TransferGraph D := calls.foldl runCall graphInit

/-! ## Edges -/

@[simp] theorem modifyEdges_nodeCount (g : TransferGraph D) (i : Nat)
    (f : List GraphEdge → List GraphEdge) : (g.modifyEdges i f).nodeCount = g.nodeCount := by
  simp [TransferGraph.modifyEdges, TransferGraph.nodeCount]

theorem edgesAt_of_le {g : TransferGraph D} {i : Nat} (h : g.nodeCount ≤ i) : g.edgesAt i = [] := by
  simp only [TransferGraph.edgesAt, List.getElem?_eq_none h]

theorem edgesAt_modifyEdges {g : TransferGraph D} {i : Nat} (hi : i < g.nodeCount)
    (f : List GraphEdge → List GraphEdge) (j : Nat) :
    (g.modifyEdges i f).edgesAt j = if j = i then f (g.edgesAt i) else g.edgesAt j := by
  simp only [TransferGraph.edgesAt, TransferGraph.modifyEdges, List.getElem?_modify]
  by_cases h : j = i
  · subst h
    obtain ⟨node, hn⟩ : ∃ node, g.nodes[j]? = some node := by
      rw [List.getElem?_eq_getElem hi]; exact ⟨_, rfl⟩
    simp [hn]
  · cases hj : g.nodes[j]? <;> simp [h, Ne.symm h]

theorem map_toIndex_improveEdge (j : Nat) (w : Int) (r : Str) (es : List GraphEdge) :
    (improveEdge j w r es).map (·.toIndex) = es.map (·.toIndex) := by
  induction es with
  | nil => rfl
  | cons e es ih =>
    simp only [improveEdge]
    split
    · split <;> simp
    · simp [ih]

theorem mem_improveEdge {j : Nat} {w : Int} {r : Str} {es : List GraphEdge} {e : GraphEdge}
    (h : e ∈ improveEdge j w r es) : e ∈ es ∨ (e.toIndex = j ∧ e.weightMin = w ∧ 0 < w) := by
  induction es with
  | nil => exact .inl h
  | cons a es ih =>
    simp only [improveEdge] at h
    split at h
    · rename_i ha
      rcases List.mem_cons.mp h with rfl | h
      · split
        · rename_i hw; exact .inr ⟨ha, rfl, hw.1⟩
        · exact .inl (List.mem_cons_self ..)
      · exact .inl (List.mem_cons_of_mem _ h)
    · rcases List.mem_cons.mp h with rfl | h
      · exact .inl (List.mem_cons_self ..)
      · exact (ih h).imp (List.mem_cons_of_mem _) id

theorem EdgesOk.addEdge {n i j : Nat} {es : List GraphEdge} (h : EdgesOk n i es) (hj : j < n)
    (hij : j ≠ i) (w : Int) (r : Str) : EdgesOk n i (addEdge j w r es) := by
  simp only [Transit.addEdge]
  split
  · refine ⟨fun e he => ?_, fun e he => ?_, fun e he => ?_, ?_⟩
    · rcases mem_improveEdge he with he | ⟨he, -, -⟩
      · exact h.bound e he
      · rwa [he]
    · rcases mem_improveEdge he with he | ⟨he, -, -⟩
      · exact h.noLoop e he
      · rwa [he]
    · rcases mem_improveEdge he with he | ⟨-, he, hw⟩
      · exact h.weight e he
      · omega
    · rw [map_toIndex_improveEdge]; exact h.unique
  · rename_i hnone
    have hfresh : ∀ e ∈ es, e.toIndex ≠ j := by
      intro e he hej
      exact hnone (List.any_eq_true.mpr ⟨e, he, by simp [hej]⟩)
    refine ⟨fun e he => ?_, fun e he => ?_, fun e he => ?_, ?_⟩
    · rcases List.mem_cons.mp he with rfl | he
      · exact hj
      · exact h.bound e he
    · rcases List.mem_cons.mp he with rfl | he
      · exact hij
      · exact h.noLoop e he
    · rcases List.mem_cons.mp he with rfl | he
      · simp only; split <;> omega
      · exact h.weight e he
    · rw [List.map_cons, List.nodup_cons]
      refine ⟨fun hm => ?_, h.unique⟩
      obtain ⟨e, he, hej⟩ := List.mem_map.mp hm
      exact hfresh e he hej

theorem EdgesOk.mono {m n i : Nat} {es : List GraphEdge} (h : EdgesOk m i es) (hmn : m ≤ n) :
    EdgesOk n i es :=
  ⟨fun e he => Nat.lt_of_lt_of_le (h.bound e he) hmn, h.noLoop, h.weight, h.unique⟩

/-! ## The two functions -/

/-- What `graph_add_edge` can do: nothing, or add to the edges of a node. -/
theorem graphAddEdge_cases (mem : Bool) (g : TransferGraph D) (a b w : Int) (r : Str) :
    (graphAddEdge mem g a b w r).1 = g ∨
      ∃ i j : Nat, a = i ∧ b = j ∧ i < g.nodeCount ∧ j < g.nodeCount ∧ j ≠ i ∧
        (graphAddEdge mem g a b w r).1 = g.modifyEdges i (addEdge j w r) := by
  simp only [graphAddEdge]
  split
  · exact .inl rfl
  · rename_i hr
    split
    · exact .inl rfl
    · rename_i hne
      split
      · exact .inl rfl
      · exact .inr ⟨a.toNat, b.toNat, by omega, by omega, by omega, by omega, by omega, rfl⟩

theorem growCapacity_ge (fuel capacity needed : Nat) (hc : 0 < capacity)
    (h : needed ≤ capacity + fuel) : needed ≤ growCapacity fuel capacity needed := by
  induction fuel generalizing capacity with
  | zero => simpa [growCapacity] using h
  | succ fuel ih =>
    simp only [growCapacity]
    split
    · exact ih _ (by omega) (by omega)
    · omega

theorem graphReserve_spec {mem : Bool} {g g' : TransferGraph D} {needed : Nat}
    (h : graphReserve mem g needed = some g') : g'.nodes = g.nodes ∧ needed ≤ g'.capacity := by
  simp only [graphReserve] at h
  split at h
  · rename_i hc
    simp only [Option.some.injEq] at h
    exact ⟨h ▸ rfl, h ▸ hc⟩
  · split at h
    · simp only [Option.some.injEq] at h
      subst h
      refine ⟨rfl, growCapacity_ge _ _ _ ?_ (by omega)⟩
      split <;> omega
    · cases h

/-- What `graph_add_node` can do: nothing, or append a node without edges. -/
theorem graphAddNode_cases (mem : Bool) (g : TransferGraph D) (nodeId nodeName nodeType : Str)
    (lat lng : D) :
    (graphAddNode mem g nodeId nodeName nodeType lat lng).1 = g ∨
      (graphAddNode mem g nodeId nodeName nodeType lat lng).1.nodes = g.nodes ++
        [{ nodeId := .copy _ nodeId, nodeName := .copy _ nodeName, nodeType := .copy _ nodeType,
           lat := lat, lng := lng, edges := [] }] ∧
      g.nodeCount + 1 ≤ (graphAddNode mem g nodeId nodeName nodeType lat lng).1.capacity := by
  simp only [graphAddNode]
  split
  · exact .inl rfl
  · cases hr : graphReserve mem g (g.nodeCount + 1) with
    | none => exact .inl rfl
    | some g' =>
      obtain ⟨hn, hc⟩ := graphReserve_spec hr
      refine .inr ⟨?_, hc⟩
      simp only [hn]

theorem edgesAt_of_append {g g' : TransferGraph D} {node : GraphNode D} (hn : node.edges = [])
    (h : g'.nodes = g.nodes ++ [node]) (i : Nat) : g'.edgesAt i = g.edgesAt i := by
  simp only [TransferGraph.edgesAt, h]
  by_cases hi : i < g.nodes.length
  · rw [List.getElem?_append_left hi]
  · rw [List.getElem?_append_right (by omega), List.getElem?_eq_none (by omega : g.nodes.length ≤ i)]
    cases hk : i - g.nodes.length with
    | zero => simp [hn]
    | succ k => simp

theorem GraphOk.runCall {g : TransferGraph D} (h : GraphOk g) (call : GraphCall D) :
    GraphOk (runCall g call) := by
  cases call with
  | addNode mem nodeId nodeName nodeType lat lng =>
    simp only [Transit.runCall]
    rcases graphAddNode_cases mem g nodeId nodeName nodeType lat lng with he | ⟨hnodes, hc⟩
    · rwa [he]
    · have hcount : (graphAddNode mem g nodeId nodeName nodeType lat lng).1.nodeCount =
          g.nodeCount + 1 := by simp [TransferGraph.nodeCount, hnodes]
      refine ⟨by rw [hcount]; exact hc, fun i => ?_⟩
      rw [edgesAt_of_append rfl hnodes, hcount]
      exact (h.edges i).mono (Nat.le_succ _)
  | addEdge mem a b w r =>
    simp only [Transit.runCall]
    rcases graphAddEdge_cases mem g a b w r with he | ⟨i, j, -, -, hi, hj, hij, he⟩
    · rwa [he]
    · rw [he]
      refine ⟨by rw [modifyEdges_nodeCount]; exact h.room, fun k => ?_⟩
      rw [modifyEdges_nodeCount, edgesAt_modifyEdges hi]
      split
      · rename_i hk; subst hk; exact (h.edges k).addEdge hj hij w r
      · exact h.edges k

theorem graphOk_init : GraphOk (graphInit : TransferGraph D) :=
  ⟨Nat.le_refl _, fun i => by
    rw [edgesAt_of_le (Nat.zero_le i)]
    exact ⟨by simp, by simp, by simp, by simp⟩⟩

/-- Every run of calls keeps the invariant. -/
theorem graphOk_runCalls (calls : List (GraphCall D)) : GraphOk (runCalls calls) := by
  suffices ∀ g : TransferGraph D, GraphOk g → GraphOk (calls.foldl runCall g) from
    this graphInit graphOk_init
  induction calls with
  | nil => exact fun g h => h
  | cons call calls ih => exact fun g h => ih _ (h.runCall call)

/-- The edge that `graph_find_edge` returns is the only one. -/
theorem GraphOk.graphFindEdge_eq_some {g : TransferGraph D} (h : GraphOk g) {u v : Nat}
    {e : GraphEdge} : graphFindEdge g u v = some e ↔ e ∈ g.edgesAt u ∧ e.toIndex = v := by
  constructor
  · intro hf
    exact ⟨List.mem_of_find?_eq_some hf, by simpa using List.find?_some hf⟩
  · rintro ⟨he, rfl⟩
    simp only [graphFindEdge]
    cases hf : (g.edgesAt u).find? (·.toIndex == e.toIndex) with
    | none => simpa using List.find?_eq_none.mp hf e he
    | some e' =>
      have he' : e'.toIndex = e.toIndex := by simpa using List.find?_some hf
      rw [List.inj_on_of_nodup_map (h.edges u).unique (List.mem_of_find?_eq_some hf) he he']

end Transit
