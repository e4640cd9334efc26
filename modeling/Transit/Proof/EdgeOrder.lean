import Mathlib.Data.List.Perm.Basic
import Transit.Proof.GraphInvariant

/-!
# The order of the calls of `graph_add_edge`

The first call for a pair of nodes stores its weight, or one minute in the
place of a weight that is not positive; later calls only count with a positive
weight. So the edge between two nodes has the least of the weights kept
(`edgeWeights_addEdgeCalls`), which depends on the call that comes first.

* `addEdgeCalls_orderFree_iff`: the pairs for which it does not.
-/

namespace Transit

variable {D : Type}

/-- A call of `graph_add_edge` whose allocation succeeds. -/
structure EdgeCall where
  fromIndex : Nat
  toIndex : Nat
  weightMin : Int
  routeNo : Str
  deriving DecidableEq

/-- It is between two nodes of the graph. -/
def EdgeCall.Between (g : TransferGraph D) (c : EdgeCall) : Prop :=
  c.fromIndex < g.nodeCount ∧ c.toIndex < g.nodeCount ∧ c.fromIndex ≠ c.toIndex

def addEdgeCall (g : TransferGraph D) (c : EdgeCall) : TransferGraph D :=
  (graphAddEdge true g c.fromIndex c.toIndex c.weightMin c.routeNo).1

def addEdgeCalls (g : TransferGraph D) (calls : List EdgeCall) : TransferGraph D :=
  calls.foldl addEdgeCall g

/-- The weights of the calls for a pair of nodes. -/
def pairWeights (calls : List EdgeCall) (u v : Nat) : List Int :=
  (calls.filter fun c => c.fromIndex == u && c.toIndex == v).map (·.weightMin)

/-- The weights of the edges from `u` to `v`. -/
def edgeWeights (g : TransferGraph D) (u v : Nat) : List Int :=
  ((g.edgesAt u).filter (·.toIndex == v)).map (·.weightMin)

/-- A weight as a first call stores it. -/
def normWeight (w : Int) : Int := if w > 0 then w else 1

/-- In every order of the calls, the edge from `u` to `v` has their least normalised weight. -/
def OrderFree (g : TransferGraph D) (calls : List EdgeCall) (u v : Nat) : Prop :=
  ∀ calls' : List EdgeCall, calls'.Perm calls →
    edgeWeights (addEdgeCalls g calls') u v = (((pairWeights calls u v).map normWeight).min?).toList

/-- The weights of a pair in which it makes no difference which one comes first. -/
def WeightsFree (ws : List Int) : Prop :=
  (∀ w ∈ ws, 0 < w) ∨ 1 ∈ ws ∨ ∀ w ∈ ws, w ≤ 0

/-! ## One call -/

/-- What a call does to the weights of its pair. -/
def mergeWeight : List Int → Int → List Int
  | [], w => [normWeight w]
  | v :: vs, w => (if w > 0 ∧ w < v then w else v) :: vs

theorem filter_improveEdge (j : Nat) (w : Int) (r : Str) (es : List GraphEdge) (v : Nat)
    (hj : es.any (·.toIndex == j) = true) :
    ((improveEdge j w r es).filter (·.toIndex == v)).map (·.weightMin) =
      if v = j then mergeWeight ((es.filter (·.toIndex == j)).map (·.weightMin)) w
      else (es.filter (·.toIndex == v)).map (·.weightMin) := by
  induction es with
  | nil => cases hj
  | cons e es ih =>
    by_cases hej : e.toIndex = j
    · subst hej
      rw [improveEdge, if_pos rfl]
      by_cases hv : v = e.toIndex
      · subst hv
        split <;> simp_all [mergeWeight]
      · have hne : (e.toIndex == v) = false := by simpa using Ne.symm hv
        rw [if_neg hv]
        split <;> simp [hne]
    · have hany : es.any (·.toIndex == j) = true := by simpa [hej] using hj
      rw [improveEdge, if_neg hej, List.filter_cons, List.filter_cons, List.filter_cons]
      by_cases hev : e.toIndex = v
      · subst hev
        simp [hej, ih hany]
      · simp [hej, hev, ih hany]

theorem filter_addEdge (j : Nat) (w : Int) (r : Str) (es : List GraphEdge) (v : Nat) :
    ((addEdge j w r es).filter (·.toIndex == v)).map (·.weightMin) =
      if v = j then mergeWeight ((es.filter (·.toIndex == j)).map (·.weightMin)) w
      else (es.filter (·.toIndex == v)).map (·.weightMin) := by
  unfold addEdge
  by_cases hany : es.any (·.toIndex == j) = true
  · rw [if_pos hany, filter_improveEdge j w r es v hany]
  · have hnone : es.filter (·.toIndex == j) = [] := by
      simpa [List.filter_eq_nil_iff] using hany
    rw [if_neg hany, hnone]
    by_cases hv : v = j
    · subst hv
      simp [hnone, mergeWeight, normWeight]
    · have hne : (j == v) = false := by simpa using Ne.symm hv
      simp [hv, hne]

theorem addEdgeCall_eq {g : TransferGraph D} {c : EdgeCall} (hc : c.Between g) :
    addEdgeCall g c = g.modifyEdges c.fromIndex (addEdge c.toIndex c.weightMin c.routeNo) := by
  obtain ⟨hfrom, hto, hne⟩ := hc
  unfold addEdgeCall graphAddEdge
  rw [if_neg (by omega), if_neg (by omega), if_neg (by simp)]
  rfl

/-- A call merges its weight into those of its pair and leaves the others. -/
theorem edgeWeights_addEdgeCall {g : TransferGraph D} {c : EdgeCall} (hc : c.Between g) (u v : Nat) :
    edgeWeights (addEdgeCall g c) u v =
      if c.fromIndex = u ∧ c.toIndex = v then mergeWeight (edgeWeights g u v) c.weightMin
      else edgeWeights g u v := by
  unfold edgeWeights
  rw [addEdgeCall_eq hc, edgesAt_modifyEdges hc.1]
  by_cases hu : u = c.fromIndex
  · subst hu
    rw [if_pos rfl, filter_addEdge]
    by_cases hv : v = c.toIndex
    · subst hv
      rw [if_pos rfl, if_pos ⟨rfl, rfl⟩]
    · rw [if_neg hv, if_neg (fun h => hv h.2.symm)]
  · rw [if_neg hu, if_neg (fun h => hu h.1.symm)]

theorem EdgeCall.Between.addEdgeCall {g : TransferGraph D} {c c' : EdgeCall} (h : c.Between g)
    (hc : c'.Between g) : c.Between (addEdgeCall g c') := by
  unfold EdgeCall.Between
  rw [addEdgeCall_eq hc, modifyEdges_nodeCount]
  exact h

/-! ## All calls -/

theorem pairWeights_cons (c : EdgeCall) (calls : List EdgeCall) (u v : Nat) :
    pairWeights (c :: calls) u v =
      if c.fromIndex = u ∧ c.toIndex = v then c.weightMin :: pairWeights calls u v
      else pairWeights calls u v := by
  unfold pairWeights
  rw [List.filter_cons]
  by_cases h : c.fromIndex = u ∧ c.toIndex = v
  · rw [if_pos h, if_pos (by simp [h])]
    rfl
  · rw [if_neg h, if_neg (by simpa using h)]

theorem edgeWeights_foldl {g : TransferGraph D} {calls : List EdgeCall} (hcalls : ∀ c ∈ calls, c.Between g)
    (u v : Nat) :
    edgeWeights (addEdgeCalls g calls) u v = (pairWeights calls u v).foldl mergeWeight (edgeWeights g u v) := by
  induction calls generalizing g with
  | nil => rfl
  | cons c calls ih =>
    obtain ⟨hc, hrest⟩ := List.forall_mem_cons.mp hcalls
    have hstep := ih fun c' hc' => (hrest c' hc').addEdgeCall hc
    show edgeWeights (addEdgeCalls (addEdgeCall g c) calls) u v = _
    rw [hstep, edgeWeights_addEdgeCall hc, pairWeights_cons]
    split <;> rfl

/-- The weights of a pair that count: the first one, normalised, and the later positive ones. -/
def keptWeights : List Int → List Int
  | [] => []
  | w :: ws => normWeight w :: ws.filter (0 < ·)

theorem foldl_mergeWeight_cons (v : Int) (ws : List Int) :
    ws.foldl mergeWeight [v] = [(ws.filter (0 < ·)).foldl min v] := by
  induction ws generalizing v with
  | nil => rfl
  | cons w ws ih =>
    rw [List.foldl_cons, mergeWeight, ih]
    by_cases hw : 0 < w
    · rw [List.filter_cons_of_pos (by simpa using hw), List.foldl_cons]
      congr 2
      split <;> omega
    · rw [List.filter_cons_of_neg (by simpa using hw), if_neg (fun h => hw h.1)]

theorem foldl_mergeWeight (ws : List Int) : ws.foldl mergeWeight [] = (keptWeights ws).min?.toList := by
  cases ws with
  | nil => rfl
  | cons w ws =>
    rw [List.foldl_cons, mergeWeight, foldl_mergeWeight_cons, keptWeights, List.min?_cons']
    rfl

/-- There is one edge between two nodes with a call for them, with the least weight kept. -/
theorem edgeWeights_addEdgeCalls {g : TransferGraph D} (hg : ∀ i, g.edgesAt i = []) {calls : List EdgeCall}
    (hcalls : ∀ c ∈ calls, c.Between g) (u v : Nat) :
    edgeWeights (addEdgeCalls g calls) u v = (keptWeights (pairWeights calls u v)).min?.toList := by
  have hempty : edgeWeights g u v = [] := by
    unfold edgeWeights
    rw [hg u]
    rfl
  rw [edgeWeights_foldl hcalls, hempty, foldl_mergeWeight]

/-! ## The order -/

theorem normWeight_pos (w : Int) : 0 < normWeight w := by
  unfold normWeight
  split <;> omega

theorem normWeight_of_pos {w : Int} (h : 0 < w) : normWeight w = w := if_pos h

theorem normWeight_of_nonpos {w : Int} (h : w ≤ 0) : normWeight w = 1 := if_neg (by omega)

/-- Every weight kept is one of the normalised weights. -/
theorem mem_normWeight_of_kept {ws : List Int} {w : Int} (h : w ∈ keptWeights ws) : w ∈ ws.map normWeight := by
  cases ws with
  | nil => exact h
  | cons w' ws =>
    rcases List.mem_cons.mp h with rfl | hmem
    · exact List.mem_cons_self ..
    · obtain ⟨hmem, hpos⟩ := List.mem_filter.mp hmem
      rw [← normWeight_of_pos (of_decide_eq_true hpos)]
      exact List.mem_cons_of_mem _ (List.mem_map_of_mem hmem)

/-- Where the order makes no difference, every normalised weight has one kept below it. -/
theorem WeightsFree.kept_le {ws : List Int} (h : WeightsFree ws) {w : Int} (hw : w ∈ ws) :
    ∃ k ∈ keptWeights ws, k ≤ normWeight w := by
  have hpos : ∀ {p : Int}, p ∈ ws → 0 < p → p ∈ keptWeights ws := by
    intro p hp hpos
    cases ws with
    | nil => cases hp
    | cons v ws =>
      rcases List.mem_cons.mp hp with rfl | hp
      · rw [keptWeights, normWeight_of_pos hpos]
        exact List.mem_cons_self ..
      · exact List.mem_cons_of_mem _ (List.mem_filter.mpr ⟨hp, decide_eq_true hpos⟩)
  rcases h with hall | hone | hall
  · refine ⟨w, hpos hw (hall w hw), ?_⟩
    rw [normWeight_of_pos (hall w hw)]
  · have := normWeight_pos w
    exact ⟨1, hpos hone (by decide), by omega⟩
  · cases ws with
    | nil => cases hw
    | cons v ws =>
      refine ⟨normWeight v, List.mem_cons_self .., ?_⟩
      rw [normWeight_of_nonpos (hall v (List.mem_cons_self ..)), normWeight_of_nonpos (hall w hw)]

theorem WeightsFree.min?_eq {ws ws' : List Int} (h : WeightsFree ws) (hperm : ws'.Perm ws) :
    (keptWeights ws').min? = (ws.map normWeight).min? := by
  cases hmin : (keptWeights ws').min? with
  | none =>
    have hnil : ws' = [] := by
      cases ws' with
      | nil => rfl
      | cons w ws' => cases List.min?_eq_none_iff.mp hmin
    have hws : ws = [] := (hnil ▸ hperm).symm.eq_nil
    rw [hws]
    rfl
  | some m =>
    obtain ⟨hmem, hleast⟩ := List.min?_eq_some_iff.mp hmin
    have hfree : WeightsFree ws' := by
      unfold WeightsFree
      simp only [hperm.mem_iff]
      exact h
    refine (List.min?_eq_some_iff.mpr ⟨?_, fun b hb => ?_⟩).symm
    · exact (hperm.map normWeight).mem_iff.mp (mem_normWeight_of_kept hmem)
    · obtain ⟨w, hw, rfl⟩ := List.mem_map.mp hb
      obtain ⟨k, hk, hle⟩ := hfree.kept_le (hperm.mem_iff.mpr hw)
      exact (hleast k hk).trans hle

/-- With another weight in front, the one minute for a weight that is not positive is lost. -/
theorem keptWeights_min?_ne {ws rest : List Int} {p n : Int} (hp : 0 < p) (hone : 1 ∉ p :: rest)
    (hn : n ∈ ws) (hnonpos : n ≤ 0) : (keptWeights (p :: rest)).min? ≠ (ws.map normWeight).min? := by
  have hlarge : ∀ k ∈ keptWeights (p :: rest), 1 < k := by
    intro k hk
    have hpos : 0 < k ∧ k ∈ p :: rest := by
      rw [keptWeights, normWeight_of_pos hp] at hk
      rcases List.mem_cons.mp hk with rfl | hk
      · exact ⟨hp, List.mem_cons_self ..⟩
      · obtain ⟨hmem, hpos⟩ := List.mem_filter.mp hk
        exact ⟨of_decide_eq_true hpos, List.mem_cons_of_mem _ hmem⟩
    have hne : k ≠ 1 := fun hk1 => hone (hk1 ▸ hpos.2)
    omega
  intro heq
  cases hmin : (keptWeights (p :: rest)).min? with
  | none => cases List.min?_eq_none_iff.mp hmin
  | some m =>
    have hm := hlarge m (List.min?_eq_some_iff.mp hmin).1
    rw [hmin] at heq
    have hle := (List.min?_eq_some_iff.mp heq.symm).2 (normWeight n) (List.mem_map_of_mem hn)
    rw [normWeight_of_nonpos hnonpos] at hle
    omega

theorem perm_pairWeights {calls calls' : List EdgeCall} (h : calls'.Perm calls) (u v : Nat) :
    (pairWeights calls' u v).Perm (pairWeights calls u v) := (h.filter _).map _

/-- In every order of the calls the same pairs have an edge, and one only; its
weight is always the least normalised weight of the pair's calls exactly when
these are all positive, or none of them is, or one of them is a minute. -/
theorem addEdgeCalls_orderFree_iff {g : TransferGraph D} (hg : ∀ i, g.edgesAt i = []) {calls : List EdgeCall}
    (hcalls : ∀ c ∈ calls, c.Between g) (u v : Nat) :
    (∀ calls' : List EdgeCall, calls'.Perm calls →
      (edgeWeights (addEdgeCalls g calls') u v).length = if pairWeights calls u v = [] then 0 else 1) ∧
    (OrderFree g calls u v ↔ WeightsFree (pairWeights calls u v)) := by
  have hweights : ∀ calls' : List EdgeCall, calls'.Perm calls →
      edgeWeights (addEdgeCalls g calls') u v = (keptWeights (pairWeights calls' u v)).min?.toList :=
    fun calls' hperm => edgeWeights_addEdgeCalls hg (fun c hc => hcalls c (hperm.mem_iff.mp hc)) u v
  refine ⟨fun calls' hperm => ?_, fun horder => ?_, fun hfree calls' hperm => ?_⟩
  · rw [hweights calls' hperm]
    have hpair := perm_pairWeights hperm u v
    cases hws : pairWeights calls' u v with
    | nil =>
      rw [hws] at hpair
      rw [if_pos hpair.nil_eq.symm]
      rfl
    | cons w ws =>
      rw [hws] at hpair
      rw [if_neg (fun hnil => by rw [hnil] at hpair; cases hpair.eq_nil), keptWeights, List.min?_cons']
      rfl
  · by_contra hfree
    unfold WeightsFree at hfree
    push Not at hfree
    obtain ⟨⟨n, hn, hnonpos⟩, hone, p, hp, hpos⟩ := hfree
    obtain ⟨c, hc, rfl⟩ := List.mem_map.mp hp
    obtain ⟨hmem, hpair⟩ := List.mem_filter.mp hc
    -- the call with a positive weight goes first
    have hperm : (c :: calls.erase c).Perm calls := (List.perm_cons_erase hmem).symm
    have hfront : pairWeights (c :: calls.erase c) u v = c.weightMin :: pairWeights (calls.erase c) u v := by
      rw [pairWeights_cons, if_pos (by simpa using hpair)]
    have heq := horder _ hperm
    rw [hweights _ hperm, hfront] at heq
    refine keptWeights_min?_ne hpos ?_ hn hnonpos (by simpa using congrArg List.head? heq)
    rw [← hfront, (perm_pairWeights hperm u v).mem_iff]
    exact hone
  · rw [hweights calls' hperm, hfree.min?_eq (perm_pairWeights hperm u v)]

/-- A graph of two nodes. -/
def twoNodes : TransferGraph Unit :=
  runCalls [.addNode true (utf8 "S1") [] [] () (), .addNode true (utf8 "S2") [] [] () ()]

/-- A call for an edge between them. -/
def edgeCall (weightMin : Int) : EdgeCall := ⟨0, 1, weightMin, utf8 "B1"⟩

theorem twoNodes_edgesAt (i : Nat) : twoNodes.edgesAt i = [] := by
  rcases i with _ | _ | i
  · rfl
  · rfl
  · exact edgesAt_of_le (Nat.le_add_left 2 i)

theorem edgeCall_between (w : Int) : (edgeCall w).Between twoNodes :=
  ⟨(by decide : 0 < twoNodes.nodeCount), (by decide : 1 < twoNodes.nodeCount), Nat.zero_ne_one⟩

theorem addEdgeCalls_orderFree_positive : OrderFree twoNodes [edgeCall 5, edgeCall 3] 0 1 := by
  have hcalls : ∀ c ∈ [edgeCall 5, edgeCall 3], c.Between twoNodes := by
    simp only [List.forall_mem_cons, edgeCall_between, List.not_mem_nil, false_implies, implies_true, and_self]
  exact (addEdgeCalls_orderFree_iff twoNodes_edgesAt hcalls 0 1).2.mpr (.inl (by decide))

/-- A later call without a positive weight does not count. -/
theorem addEdgeCalls_clash : (∀ i, twoNodes.edgesAt i = []) ∧
    (∀ c ∈ [edgeCall 5, edgeCall 0], c.Between twoNodes) ∧
    ¬ ∀ u v, OrderFree twoNodes [edgeCall 5, edgeCall 0] u v := by
  refine ⟨twoNodes_edgesAt, ?_, fun h => ?_⟩
  · simp only [List.forall_mem_cons, edgeCall_between, List.not_mem_nil, false_implies, implies_true, and_self]
  · have hweights := h 0 1 [edgeCall 5, edgeCall 0] (List.Perm.refl _)
    have hfive : edgeWeights (addEdgeCalls twoNodes [edgeCall 5, edgeCall 0]) 0 1 = [5] := by decide
    rw [hfive] at hweights
    exact absurd hweights (by decide)

end Transit
