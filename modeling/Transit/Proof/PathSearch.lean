import Transit.Framework.SettleOrder
import Transit.Proof.GraphInvariant
import Mathlib.Data.Finset.Card
import Mathlib.Data.List.Perm.Subperm
import Mathlib.Algebra.Order.BigOperators.Group.List
import Mathlib.Algebra.Order.Ring.Int

/-!
# `graph_find_path` finds shortest paths

The arrays of the search are `Framework.Labels` over the nodes of the graph,
and the rounds of `searchLoop` keep `Framework.Inv`, as long as the weights of
the graph sum to less than `inf` and `int` additions are therefore exact.

* `graphFindPath_shortest`: a path returned is a shortest one, with the times
  and routes of its edges, and one is returned whenever there is a walk and
  shortest ones fit `MAX_GRAPH_PATH`.
-/

namespace Transit

open Framework

variable {D : Type} {g : TransferGraph D}

/-- There is an edge from `u` to `v` of weight `c`. -/
def TransferGraph.Edge (g : TransferGraph D) (u v : Nat) (c : Int) : Prop :=
  ∃ e ∈ g.edgesAt u, e.toIndex = v ∧ e.weightMin = c

def TransferGraph.outWeight (g : TransferGraph D) (u : Nat) : Int :=
  ((g.edgesAt u).map (·.weightMin)).sum

def TransferGraph.totalWeight (g : TransferGraph D) : Int :=
  ((List.range g.nodeCount).map g.outWeight).sum

/-- What `graph_find_path` promises of the path from `a` to `b`. -/
structure ShortestPath (g : TransferGraph D) (a b : Nat) (path : GraphPath) : Prop where
  count : 1 ≤ path.count ∧ path.count ≤ maxGraphPath
  first : path.indices[0]? = some a
  last : path.indices[path.count - 1]? = some b
  distinct : path.indices.Nodup
  segments : ∀ i, i + 1 < path.count → ∃ u v e,
    path.indices[i]? = some u ∧ path.indices[i + 1]? = some v ∧
    e ∈ g.edgesAt u ∧ e.toIndex = v ∧
    path.segmentMinutes[i]? = some e.weightMin ∧ path.segmentRoutes[i]? = some e.routeNo
  total : path.segmentMinutes.sum = path.totalMinutes
  attained : ∃ l, Walk g.Edge a b l path.totalMinutes
  minimal : ∀ l w, Walk g.Edge a b l w → path.totalMinutes ≤ w

/-! ## Edges and weights -/

theorem GraphOk.edge_pos (h : GraphOk g) (u v : Nat) (c : Int) (he : g.Edge u v c) : 1 ≤ c := by
  obtain ⟨e, he, -, rfl⟩ := he
  exact (h.edges u).weight e he

theorem GraphOk.edge_zero_lt (h : GraphOk g) (u v : Nat) (c : Int) (he : g.Edge u v c) : 0 < c :=
  h.edge_pos u v c he

theorem GraphOk.edge_nonneg (h : GraphOk g) (u v : Nat) (c : Int) (he : g.Edge u v c) : 0 ≤ c :=
  Int.le_trans (by decide) (h.edge_pos u v c he)

theorem GraphOk.edge_lt (h : GraphOk g) {u v : Nat} {c : Int} (he : g.Edge u v c) :
    v < g.nodeCount := by
  obtain ⟨e, he, rfl, -⟩ := he
  exact (h.edges u).bound e he

theorem GraphOk.weight_nonneg (h : GraphOk g) (u : Nat) :
    ∀ c ∈ (g.edgesAt u).map (·.weightMin), 0 ≤ c := by
  intro c hc
  obtain ⟨e, he, rfl⟩ := List.mem_map.mp hc
  exact h.edge_nonneg u e.toIndex _ ⟨e, he, rfl, rfl⟩

theorem GraphOk.edge_le_outWeight (h : GraphOk g) (u v : Nat) (c : Int) (he : g.Edge u v c) :
    c ≤ g.outWeight u := by
  obtain ⟨e, he, -, rfl⟩ := he
  exact List.single_le_sum (h.weight_nonneg u) _ (List.mem_map_of_mem he)

theorem GraphOk.outWeight_nonneg (h : GraphOk g) (u : Nat) : 0 ≤ g.outWeight u :=
  List.sum_nonneg (h.weight_nonneg u)

/-- Different nodes give together at most the weight of the graph. -/
theorem GraphOk.sum_outWeight_le (h : GraphOk g) {l : List Nat} (hd : l.Nodup)
    (hl : ∀ x ∈ l, x < g.nodeCount) : (l.map g.outWeight).sum ≤ g.totalWeight := by
  obtain ⟨l', hperm, hsub⟩ := hd.subperm fun x hx => List.mem_range.mpr (hl x hx)
  rw [← (hperm.map g.outWeight).sum_eq]
  refine (hsub.map g.outWeight).sum_le_sum fun c hc => ?_
  obtain ⟨u, -, rfl⟩ := List.mem_map.mp hc
  exact h.outWeight_nonneg u

theorem GraphOk.edge_le_total (h : GraphOk g) {u v : Nat} {c : Int} (he : g.Edge u v c) :
    c ≤ g.totalWeight := by
  have hu : u < g.nodeCount := by
    by_contra hu
    obtain ⟨e, hm, -⟩ := he
    rw [edgesAt_of_le (by omega)] at hm
    cases hm
  have hs := h.sum_outWeight_le (List.nodup_singleton u) (by simpa using hu)
  have hc := h.edge_le_outWeight u v c he
  simp only [List.map_cons, List.map_nil, List.sum_singleton] at hs
  omega

theorem GraphOk.segment_eq (h : GraphOk g) {u : Nat} {e : GraphEdge} (he : e ∈ g.edgesAt u) :
    segment g u e.toIndex = (e.weightMin, e.routeNo) := by
  simp only [segment, h.graphFindEdge_eq_some.mpr ⟨he, rfl⟩]

/-! ## The nearest node -/

/-- What the loop over the nodes below `n` has found. -/
structure NearestBelow (s : Search) (n : Nat) (best : Int × Option Nat) : Prop where
  first : ∀ c, best.2 = some c → ∀ i < c, s.visited i = false → s.dist c < s.dist i
  none : best.2 = none → best.1 = inf
  some : ∀ c, best.2 = some c → c < n ∧ s.visited c = false ∧ best.1 = s.dist c ∧ s.dist c < inf
  le : ∀ i < n, s.visited i = false → best.1 ≤ s.dist i

theorem NearestBelow.le_inf {s : Search} {n : Nat} {best : Int × Option Nat}
    (h : NearestBelow s n best) : best.1 ≤ inf := by
  cases hb : best.2 with
  | none => rw [h.none hb]
  | some c => have := h.some c hb; omega

theorem NearestBelow.nearer {s : Search} {n : Nat} {best : Int × Option Nat}
    (h : NearestBelow s n best) : NearestBelow s (n + 1) (nearer s best n) := by
  simp only [Transit.nearer, Bool.and_eq_true, Bool.not_eq_true', decide_eq_true_eq]
  split
  · rename_i hn
    refine ⟨fun c hc i hi hv => ?_, by simp, fun c hc => ?_, fun i hi hv => ?_⟩
    · cases hc
      exact Int.lt_of_lt_of_le hn.2 (h.le i hi hv)
    · cases hc
      exact ⟨Nat.lt_succ_self n, hn.1, rfl, Int.lt_of_lt_of_le hn.2 h.le_inf⟩
    · rcases Nat.lt_succ_iff_lt_or_eq.mp hi with hi | rfl
      · have := h.le i hi hv; simp only; omega
      · exact Int.le_refl _
  · rename_i hn
    refine ⟨h.first, h.none, fun c hc => ?_, fun i hi hv => ?_⟩
    · obtain ⟨h1, h2⟩ := h.some c hc
      exact ⟨Nat.lt_succ_of_lt h1, h2⟩
    · rcases Nat.lt_succ_iff_lt_or_eq.mp hi with hi | rfl
      · exact h.le i hi hv
      · by_contra hlt; exact hn ⟨hv, by omega⟩

theorem nearestBelow_foldl (s : Search) (n : Nat) :
    NearestBelow s n ((List.range n).foldl (nearer s) (inf, none)) := by
  induction n with
  | zero => exact ⟨by simp, fun _ => rfl, by simp, by simp⟩
  | succ n ih =>
    rw [List.range_succ, List.foldl_append]
    exact ih.nearer

/-! ## The search keeps the invariant -/

def Search.labels (s : Search) : Labels Nat Int := ⟨s.dist, s.prev, fun v => s.visited v = true⟩

/-- Edges out of `cur` not relaxed yet. -/
def Pending (cur : Nat) (es : List GraphEdge) (u v : Nat) (c : Int) : Prop :=
  u = cur ∧ ∃ e ∈ es, e.toIndex = v ∧ e.weightMin = c

/-- Between two rounds of the search from `a`. -/
abbrev SearchInv (g : TransferGraph D) (a : Nat) (d : Int) (s : Search) : Prop :=
  Settled g.Edge a inf d (fun _ _ _ => False) s.labels

theorem labels_visit (cur : Nat) (s : Search) : (visit cur s).labels = s.labels.visit cur := by
  simp only [visit, Search.labels, Labels.visit, Labels.mk.injEq, true_and]
  funext v
  by_cases hv : v = cur
  · simp [hv]
  · simp [hv]

theorem searchInv_init (g : TransferGraph D) (a : Nat) : SearchInv g a 0 (searchInit a) :=
  Settled.init (by decide) (by simp [Search.labels, searchInit])
    (fun v hv => by simp [Search.labels, searchInit, hv])
    (by simp [Search.labels, searchInit])
    (fun v hv => by simp [Search.labels, searchInit, hv])

/-- The sum of a distance and a weight does not overflow. -/
theorem toInt32_add {d c : Int} (h0 : 0 ≤ d) (hc : 1 ≤ c) (hi : d + c ≤ intMax) :
    toInt32 (d + c) = d + c := by
  have : intMax = 2147483647 := by decide
  simp only [toInt32, Int.bmod_def]
  omega

@[simp] theorem relax_visited (cur : Nat) (s : Search) (e : GraphEdge) :
    (relax cur s e).visited = s.visited := by
  unfold relax
  dsimp only
  split <;> rfl

/-- Only nodes not visited are brought nearer. -/
theorem relax_dist {cur u : Nat} {s : Search} (hu : s.visited u = true) (e : GraphEdge) :
    (relax cur s e).dist u = s.dist u := by
  simp only [relax, Bool.and_eq_true, Bool.not_eq_true', decide_eq_true_eq]
  split
  · rename_i hlt
    refine Function.update_of_ne (fun h => ?_) ..
    rw [← h, hu] at hlt
    cases hlt.1
  · rfl

@[simp] theorem foldl_relax_visited (cur : Nat) (s : Search) (es : List GraphEdge) :
    (es.foldl (relax cur) s).visited = s.visited := by
  induction es generalizing s with
  | nil => rfl
  | cons e es ih => rw [List.foldl_cons, ih, relax_visited]

theorem foldl_relax_dist {cur u : Nat} {s : Search} (hu : s.visited u = true) (es : List GraphEdge) :
    (es.foldl (relax cur) s).dist u = s.dist u := by
  induction es generalizing s with
  | nil => rfl
  | cons e es ih => rw [List.foldl_cons, ih (by rwa [relax_visited]), relax_dist hu]

/-- The sums computed while the edges out of `cur` are relaxed. -/
def relaxSums (cur : Nat) : List GraphEdge → Search → List Int
  | [], _ => []
  | e :: es, s => (s.dist cur + e.weightMin) :: relaxSums cur es (relax cur s e)

/-- All sums that the search loop computes, in order. -/
def searchSums (g : TransferGraph D) (toIndex : Nat) : Nat → Search → List Int
  | 0, _ => []
  | fuel + 1, s =>
    match nearest g.nodeCount s with
    | none => []
    | some cur =>
      if cur = toIndex then []
      else
        relaxSums cur (g.edgesAt cur) (visit cur s) ++
          searchSums g toIndex fuel ((g.edgesAt cur).foldl (relax cur) (visit cur s))

theorem relaxSums_eq {cur : Nat} {s : Search} (hv : s.visited cur = true) (es : List GraphEdge) :
    relaxSums cur es s = es.map fun e => s.dist cur + e.weightMin := by
  induction es generalizing s with
  | nil => rfl
  | cons e es ih =>
    rw [relaxSums, ih (by rwa [relax_visited]), relax_dist hv]
    rfl

theorem visit_visited (cur : Nat) (s : Search) : (visit cur s).visited cur = true := by
  simp [visit]

/-- The arrays after a round. -/
def roundOf (g : TransferGraph D) (cur : Nat) (s : Search) : Search :=
  (g.edgesAt cur).foldl (relax cur) (visit cur s)

theorem searchSums_round {b cur : Nat} {s : Search} (hn : nearest g.nodeCount s = some cur)
    (hcb : cur ≠ b) (fuel : Nat) : searchSums g b (fuel + 1) s =
      (g.edgesAt cur).map (fun e => s.dist cur + e.weightMin) ++ searchSums g b fuel (roundOf g cur s) := by
  have hsums := relaxSums_eq (visit_visited cur s) (g.edgesAt cur)
  rw [searchSums, hn]
  dsimp only
  rw [if_neg hcb, hsums]
  rfl

theorem searchLoop_round {b cur : Nat} {s : Search} (hn : nearest g.nodeCount s = some cur)
    (hcb : cur ≠ b) (fuel : Nat) :
    searchLoop g b (fuel + 1) s = searchLoop g b fuel (roundOf g cur s) := by
  rw [searchLoop, hn]
  dsimp only
  rw [if_neg hcb]
  rfl

@[simp] theorem roundOf_visited (g : TransferGraph D) (cur : Nat) (s : Search) :
    (roundOf g cur s).visited = (visit cur s).visited := foldl_relax_visited ..

theorem roundOf_dist {u cur : Nat} {s : Search} (hu : (visit cur s).visited u = true) :
    (roundOf g cur s).dist u = s.dist u := foldl_relax_dist hu _

theorem visited_visit {u cur : Nat} {s : Search} :
    (visit cur s).visited u = true ↔ u = cur ∨ s.visited u = true := by
  by_cases huc : u = cur
  · simp [visit, huc]
  · simp [visit, huc]

section

variable {a cur : Nat} {d : Int} {s : Search}

theorem SearchInv.dist_nonneg (h : SearchInv g a d s) (hg : GraphOk g) (hi : s.dist cur < inf) :
    0 ≤ s.dist cur := by
  obtain ⟨l, hl, -⟩ := h.chain cur hi
  exact hl.walk.weight_nonneg hg.edge_nonneg

/-- Relaxing one edge, the sum being exact, takes it off the pending ones. -/
theorem settled_relax (hg : GraphOk g) {e : GraphEdge} {es : List GraphEdge} (he : e ∈ g.edgesAt cur)
    (hexact : toInt32 (s.dist cur + e.weightMin) = s.dist cur + e.weightMin) (hv : s.visited cur = true)
    (h : Settled g.Edge a inf d (Pending cur (e :: es)) s.labels)
    (hlast : ∀ u, s.visited u = true → NotAfter s.dist u cur) (hd : d ≤ s.dist cur) :
    Settled g.Edge a inf d (Pending cur es) (relax cur s e).labels := by
  have hedge : g.Edge cur e.toIndex e.weightMin := ⟨e, he, rfl, rfl⟩
  have hpend : ∀ u v c, g.Edge u v c → Pending cur (e :: es) u v c ∧
      ¬ (u = cur ∧ v = e.toIndex ∧ c = e.weightMin) → Pending cur es u v c := by
    rintro u v c - ⟨⟨rfl, f, hf, rfl, rfl⟩, hne⟩
    rcases List.mem_cons.mp hf with rfl | hf
    · exact absurd ⟨rfl, rfl, rfl⟩ hne
    · exact ⟨rfl, f, hf, rfl, rfl⟩
  simp only [relax, hexact, Bool.and_eq_true, Bool.not_eq_true', decide_eq_true_eq]
  split
  · rename_i hlt
    refine Settled.of_pending ?_ hpend
    exact h.relax_improve hg.edge_zero_lt hv hd hedge (fun _ _ _ hp => hp.1)
      (by simp [Search.labels, hlt.1]) hlt.2
  · rename_i hge
    refine (h.relax_skip hg.edge_zero_lt hlast hd hedge ?_).of_pending hpend
    by_cases hvis : s.visited e.toIndex = true
    · exact .inl hvis
    · refine .inr (Int.not_lt.mp fun hlt => hge ⟨by simpa using hvis, hlt⟩)

theorem settled_foldl_relax (hg : GraphOk g) {es : List GraphEdge} (hes : ∀ e ∈ es, e ∈ g.edgesAt cur)
    (hexact : ∀ e ∈ es, toInt32 (s.dist cur + e.weightMin) = s.dist cur + e.weightMin)
    (hv : s.visited cur = true) (h : Settled g.Edge a inf d (Pending cur es) s.labels)
    (hlast : ∀ u, s.visited u = true → NotAfter s.dist u cur) (hd : d ≤ s.dist cur) :
    SearchInv g a d (es.foldl (relax cur) s) := by
  induction es generalizing s with
  | nil => exact h.of_pending fun u v c _ hp => by simp [Pending] at hp
  | cons e es ih =>
    rw [List.forall_mem_cons] at hes hexact
    have hcur : (relax cur s e).dist cur = s.dist cur := relax_dist hv e
    refine ih hes.2 ?_ (by rwa [relax_visited]) (settled_relax hg hes.1 hexact.1 hv h hlast hd) ?_ (by rwa [hcur])
    · intro f hf
      rw [hcur]
      exact hexact.2 f hf
    · intro u hu
      rw [relax_visited] at hu
      unfold NotAfter
      rw [relax_dist hu, hcur]
      exact hlast u hu

/-- Only nodes of the graph are reached. -/
theorem SearchInv.lt_nodeCount (h : SearchInv g a d s) (hg : GraphOk g) (ha : a < g.nodeCount)
    {v : Nat} (hv : s.dist v < inf) : v < g.nodeCount := by
  obtain ⟨l, hl, -⟩ := h.chain v hv
  rcases hl.walk.mem v (List.mem_of_getLast? hl.walk.getLast?) with rfl | ⟨u, c, he⟩
  · exact ha
  · exact hg.edge_lt he

theorem SearchInv.nearest_none (h : SearchInv g a d s) (hg : GraphOk g) (ha : a < g.nodeCount)
    (hn : nearest g.nodeCount s = none) (v : Nat) (hv : ¬ s.visited v = true) : inf ≤ s.dist v := by
  by_contra hlt
  have hlt := Int.not_le.mp hlt
  have hb := nearestBelow_foldl s g.nodeCount
  have := hb.le v (h.lt_nodeCount hg ha hlt) (by simpa using hv)
  rw [hb.none hn] at this
  omega

theorem SearchInv.nearest_some (h : SearchInv g a d s) (hg : GraphOk g) (ha : a < g.nodeCount)
    (hn : nearest g.nodeCount s = some cur) :
    cur < g.nodeCount ∧ s.visited cur = false ∧ s.dist cur < inf ∧
      ∀ v, ¬ s.visited v = true → NotAfter s.dist cur v := by
  have hb := nearestBelow_foldl s g.nodeCount
  obtain ⟨hc, hv, hd, hi⟩ := hb.some cur hn
  refine ⟨hc, hv, hi, fun v hv => ?_⟩
  have hv' : s.visited v = false := by simpa using hv
  by_cases hlt : s.dist v < inf
  · have hle := hb.le v (h.lt_nodeCount hg ha hlt) hv'
    by_cases hvc : v < cur
    · exact .inl (hb.first cur hn v hvc hv')
    · unfold NotAfter
      omega
  · exact .inl (by omega)

/-- One round of the search that does not end it. -/
theorem SearchInv.round (h : SearchInv g a d s) (hg : GraphOk g) (ha : a < g.nodeCount)
    (hn : nearest g.nodeCount s = some cur)
    (hexact : ∀ e ∈ g.edgesAt cur, toInt32 (s.dist cur + e.weightMin) = s.dist cur + e.weightMin) :
    SearchInv g a (s.dist cur) (roundOf g cur s) := by
  obtain ⟨-, hv, hi, hmin⟩ := h.nearest_some hg ha hn
  have hnv : ¬ s.visited cur = true := by simp [hv]
  have hvisit := h.visit (hnv : ¬ s.labels.visited cur) hi hmin
  rw [← labels_visit] at hvisit
  refine settled_foldl_relax (s := visit cur s) hg (fun e he => he) hexact (by simp [visit])
    (hvisit.of_pending fun u v c he hu => ?_) (fun u hu => ?_) (Int.le_refl _)
  · subst hu
    obtain ⟨e, he, h1, h2⟩ := he
    exact ⟨rfl, e, he, h1, h2⟩
  · rcases visited_visit.mp hu with rfl | hus
    · exact .inr ⟨rfl, le_rfl⟩
    · exact h.order u cur hus hnv

variable {b fuel : Nat} {s' : Search}

/-- The nodes still to visit. -/
def unvisited (n : Nat) (s : Search) : Finset Nat :=
  (Finset.range n).filter fun v => s.visited v = false

theorem card_unvisited_visit {n : Nat} (hc : cur < n) (hv : s.visited cur = false)
    (hs : s'.visited = (visit cur s).visited) : (unvisited n s').card < (unvisited n s).card := by
  refine Finset.card_lt_card (Finset.ssubset_iff_of_subset (fun v hm => ?_) |>.mpr ⟨cur, ?_, ?_⟩)
  · simp only [unvisited, Finset.mem_filter, hs, visit] at hm ⊢
    refine ⟨hm.1, ?_⟩
    by_cases hvc : v = cur
    · rw [hvc]; exact hv
    · simpa [hvc] using hm.2
  · simp [unvisited, hc, hv]
  · simp [unvisited, hs, visit]

/-- The state in which a search for `b` ends, before `b` is visited if it is found. -/
structure SearchEnd (g : TransferGraph D) (a b : Nat) (found : Bool) (s : Search) : Prop where
  inv : ∃ d, SearchInv g a d s
  unvisited : s.visited b = false
  nearest : nearest g.nodeCount s = if found then some b else none

theorem roundOf_unvisited (hcb : cur ≠ b) (hb : s.visited b = false) :
    (roundOf g cur s).visited b = false := by
  rw [roundOf_visited, visit]
  simpa [Function.update_of_ne (Ne.symm hcb)] using hb

/-- A property that the invariant gives the sums of a round, and that makes them
exact, holds of all sums. -/
theorem searchSums_forall {P : Int → Prop} (hg : GraphOk g) (ha : a < g.nodeCount)
    (hP : ∀ x, P x → toInt32 x = x)
    (hround : ∀ d s cur, SearchInv g a d s → s.visited b = false → nearest g.nodeCount s = some cur →
      cur ≠ b → ∀ e ∈ g.edgesAt cur, P (s.dist cur + e.weightMin))
    (h : SearchInv g a d s) (hb : s.visited b = false) : ∀ x ∈ searchSums g b fuel s, P x := by
  induction fuel generalizing s d with
  | zero => intro x hx; cases hx
  | succ fuel ih =>
    cases hn : nearest g.nodeCount s with
    | none =>
      unfold searchSums
      rw [hn]
      exact List.forall_mem_nil _
    | some cur =>
      by_cases hcb : cur = b
      · unfold searchSums
        rw [hn]
        simp only [if_pos hcb]
        exact List.forall_mem_nil _
      · have hsums := hround d s cur h hb hn hcb
        rw [searchSums_round hn hcb, List.forall_mem_append, List.forall_mem_map]
        exact ⟨hsums, ih (h.round hg ha hn fun e he => hP _ (hsums e he)) (roundOf_unvisited hcb hb)⟩

/-- With enough rounds and exact sums, the search ends in such a state. Nodes
visited on the way have been relaxed, and stay at their distance. -/
theorem searchLoop_end (hg : GraphOk g) (ha : a < g.nodeCount) (h : SearchInv g a d s)
    (hb : s.visited b = false) (hf : (unvisited g.nodeCount s).card < fuel)
    (hexact : ∀ x ∈ searchSums g b fuel s, toInt32 x = x) :
    ∃ found s', SearchEnd g a b found s' ∧
      searchLoop g b fuel s = (if found then visit b s' else s', found) ∧
      (∀ u, s.visited u = true → s'.visited u = true ∧ s'.dist u = s.dist u) ∧
      ∀ u, s'.visited u = true → s.visited u = true ∨
        ∀ e ∈ g.edgesAt u, s'.dist u + e.weightMin ∈ searchSums g b fuel s := by
  induction fuel generalizing s d with
  | zero => omega
  | succ fuel ih =>
    cases hn : nearest g.nodeCount s with
    | none =>
      refine ⟨false, s, ⟨⟨d, h⟩, hb, hn⟩, ?_, fun u hu => ⟨hu, rfl⟩, fun u hu => .inl hu⟩
      unfold searchLoop
      rw [hn]
      rfl
    | some cur =>
      by_cases hcb : cur = b
      · subst hcb
        refine ⟨true, s, ⟨⟨d, h⟩, hb, hn⟩, ?_, fun u hu => ⟨hu, rfl⟩, fun u hu => .inl hu⟩
        unfold searchLoop
        rw [hn]
        exact if_pos rfl
      · rw [searchSums_round hn hcb, List.forall_mem_append, List.forall_mem_map] at hexact
        obtain ⟨hc, hv, -, -⟩ := h.nearest_some hg ha hn
        have hcard := card_unvisited_visit hc hv (roundOf_visited g cur s)
        obtain ⟨found, s', hend, hloop, hkeep, hdone⟩ :=
          ih (h.round hg ha hn hexact.1) (roundOf_unvisited hcb hb) (by omega) hexact.2
        have hstay : ∀ u, (visit cur s).visited u = true →
            s'.visited u = true ∧ s'.dist u = s.dist u := by
          intro u hu
          obtain ⟨hvis, hdist⟩ := hkeep u (by rwa [roundOf_visited])
          exact ⟨hvis, hdist.trans (roundOf_dist hu)⟩
        refine ⟨found, s', hend, (searchLoop_round hn hcb fuel).trans hloop,
          fun u hu => hstay u (visited_visit.mpr (.inr hu)), fun u hu => ?_⟩
        rw [searchSums_round hn hcb]
        rcases hdone u hu with hvis | hall
        · rw [roundOf_visited] at hvis
          rcases visited_visit.mp hvis with rfl | hus
          · refine .inr fun e he => List.mem_append_left _ ?_
            rw [(hstay u hvis).2]
            exact List.mem_map_of_mem he
          · exact .inl hus
        · exact .inr fun e he => List.mem_append_right _ (hall e he)

/-- Where the way to the end of every edge is shorter than `inf`, only what no
walk leads to is missed. -/
theorem SearchEnd.not_walk (hend : SearchEnd g a b false s) (hg : GraphOk g) (ha : a < g.nodeCount)
    (hsum : ∀ d, SearchInv g a d s → ∀ u v c, s.visited u = true → g.Edge u v c → s.dist u + c < inf)
    (l : List Nat) (w : Int) : ¬ Walk g.Edge a b l w := by
  intro hwalk
  obtain ⟨d, hinv⟩ := hend.inv
  have hvis : s.visited b = true := hinv.visited_of_walk (by decide) (hsum d hinv)
    (hinv.nearest_none hg ha hend.nearest) hwalk
  rw [hend.unvisited] at hvis
  cases hvis

end

/-! ## The path -/

theorem backtrack_chain {E : Nat → Nat → Int → Prop} {a v : Nat} {prev : Nat → Option Nat}
    {l : List Nat} {w : Int} (h : Chain E a prev v l w) (room : Nat) :
    backtrack prev a room v = l.reverse.take room := by
  induction h generalizing room with
  | source => cases room <;> simp [backtrack]
  | @step u v l w c _ hp hs _ _ ih =>
    cases room with
    | zero => rfl
    | succ room => simp [backtrack, hs, hp, ih]

/-- The array held the whole chain exactly when it ends in the source. -/
theorem getLast?_take_reverse {a : Nat} {l : List Nat} (ha : l.head? = some a) (hd : l.Nodup)
    {room : Nat} :
    (l.reverse.take room).getLast? = some a ↔ l.length ≤ room := by
  obtain ⟨l, rfl⟩ : ∃ l', l = a :: l' := by
    cases l with
    | nil => cases ha
    | cons x l => exact ⟨l, by simpa using ha⟩
  by_cases hle : (a :: l).length ≤ room
  · rw [List.take_of_length_le (by simpa using hle)]
    simp only [List.getLast?_reverse, List.head?_cons, hle]
  · simp only [hle, iff_false]
    intro hlast
    have hlen : room ≤ l.reverse.length := by simp at hle ⊢; omega
    have hmem := List.mem_of_getLast? hlast
    rw [List.reverse_cons, List.take_append_of_le_length hlen] at hmem
    exact (List.nodup_cons.mp hd).1 (List.mem_reverse.mp (List.mem_of_mem_take hmem))

/-- What `graph_find_path` computes of a chain that fits its array. -/
theorem shortestPath_of_chain (hg : GraphOk g) {a b : Nat} {prev : Nat → Option Nat} {l : List Nat}
    {w : Int} (h : Chain g.Edge a prev b l w) (hfit : l.length ≤ maxGraphPath)
    (hmin : ∀ l' w', Walk g.Edge a b l' w' → w ≤ w') :
    ShortestPath g a b
      { indices := l, segmentRoutes := (List.zipWith (segment g) l l.tail).map (·.2),
        segmentMinutes := (List.zipWith (segment g) l l.tail).map (·.1), totalMinutes := w } where
  count := ⟨List.length_pos_of_ne_nil h.walk.ne_nil, hfit⟩
  first := by rw [← List.head?_eq_getElem?, h.walk.head?]
  last := by
    simp only [GraphPath.count]
    rw [← List.getLast?_eq_getElem?, h.walk.getLast?]
  distinct := h.nodup
  segments := by
    intro i hi
    simp only [GraphPath.count] at hi
    have hu : l[i]? = some l[i] := List.getElem?_eq_getElem (by omega)
    have hv : l[i + 1]? = some l[i + 1] := List.getElem?_eq_getElem hi
    obtain ⟨c, e, he, hto, -⟩ := h.walk.edge hu hv
    have hseg : (List.zipWith (segment g) l l.tail)[i]? = some (e.weightMin, e.routeNo) := by
      rw [List.getElem?_zipWith, hu, List.getElem?_tail, hv, ← hto]
      simp only [hg.segment_eq he]
    exact ⟨_, _, e, hu, hv, he, hto, by rw [List.getElem?_map, hseg]; rfl,
      by rw [List.getElem?_map, hseg]; rfl⟩
  total := by
    simp only [List.map_zipWith]
    refine h.walk.sum_zipWith fun u v c he => ?_
    obtain ⟨e, he, rfl, rfl⟩ := he
    rw [hg.segment_eq he]
  attained := ⟨l, h.walk⟩
  minimal := hmin

section

variable {a b : Nat} (ha : a < g.nodeCount) (hb : b < g.nodeCount)
include ha hb

theorem graphFindPath_eq (mem : Bool) : graphFindPath mem g a b =
    if mem then
      match searchLoop g b (g.nodeCount + 1) (searchInit a) with
      | (s, true) =>
        let rev := backtrack s.prev a maxGraphPath b
        if rev.getLast? = some a then
          some { indices := rev.reverse,
                 segmentRoutes := (List.zipWith (segment g) rev.reverse rev.reverse.tail).map (·.2),
                 segmentMinutes := (List.zipWith (segment g) rev.reverse rev.reverse.tail).map (·.1),
                 totalMinutes := s.dist b }
        else none
      | (_, false) => none
    else none := by
  have hvalid : ¬ ((a : Int) < 0 ∨ (b : Int) < 0 ∨ (a : Int) ≥ g.nodeCount ∨
      (b : Int) ≥ g.nodeCount) := by omega
  rw [graphFindPath, if_neg hvalid]
  cases mem with
  | false => rfl
  | true =>
    simp only [Bool.not_true, Bool.false_eq_true, if_false, Int.toNat_natCast, if_true]
    cases hs : searchLoop g b (g.nodeCount + 1) (searchInit a) with
    | mk s found => cases found <;> simp

/-- What the sums of the search for `b` from `a` have to be. -/
def SumsExact (g : TransferGraph D) (a b : Nat) : Prop :=
  ∀ x ∈ searchSums g b (g.nodeCount + 1) (searchInit a), toInt32 x = x

/-- The outcome of `graph_find_path`: the first path, if it fits, or no walk shorter than `inf`. -/
theorem graphFindPath_end (hg : GraphOk g) (hexact : SumsExact g a b) :
    ∃ found s, SearchEnd g a b found s ∧
      (∀ u, s.visited u = true → ∀ e ∈ g.edgesAt u,
        s.dist u + e.weightMin ∈ searchSums g b (g.nodeCount + 1) (searchInit a)) ∧
      (found = false → graphFindPath true g a b = none) ∧
      (found = true → ∃ l, Chain g.Edge a s.prev b l (s.dist b) ∧ FirstPath g.Edge a b l (s.dist b) ∧
        graphFindPath true g a b = if l.length ≤ maxGraphPath then
          some { indices := l, segmentRoutes := (List.zipWith (segment g) l l.tail).map (·.2),
                 segmentMinutes := (List.zipWith (segment g) l l.tail).map (·.1),
                 totalMinutes := s.dist b }
        else none) := by
  have hcard : (unvisited g.nodeCount (searchInit a)).card < g.nodeCount + 1 :=
    Nat.lt_succ_of_le ((Finset.card_filter_le ..).trans (by simp))
  obtain ⟨found, s, hend, hloop, -, hdone⟩ := searchLoop_end hg ha (searchInv_init g a) rfl hcard hexact
  refine ⟨found, s, hend, fun u hu e he => ?_, ?_, ?_⟩
  · rcases hdone u hu with hinit | hall
    · cases hinit
    · exact hall e he
  · rintro rfl
    rw [graphFindPath_eq ha hb, hloop]
    rfl
  · rintro rfl
    obtain ⟨d, hinv⟩ := hend.inv
    have hn : nearest g.nodeCount s = some b := hend.nearest
    obtain ⟨-, hv, hi, hmin⟩ := hinv.nearest_some hg ha hn
    obtain ⟨l, hl, -⟩ := hinv.chain b hi
    have hnear : ∀ y, ¬ s.labels.visited y → s.labels.dist b ≤ s.labels.dist y := fun y hy => (hmin y hy).le
    have hback : backtrack s.prev a maxGraphPath b = l.reverse.take maxGraphPath :=
      backtrack_chain hl maxGraphPath
    refine ⟨l, hl, hinv.firstPath hg.edge_zero_lt hl hnear, ?_⟩
    rw [graphFindPath_eq ha hb, hloop]
    dsimp only [visit]
    simp only [if_true, hback, getLast?_take_reverse hl.walk.head? hl.nodup]
    split
    · rename_i hfit
      rw [List.take_of_length_le (by simpa using hfit), List.reverse_reverse]
    · rfl

omit hb in
/-- A graph of a weight below `inf` keeps all sums exact. -/
theorem sumsExact_of_totalWeight (hg : GraphOk g) (hw : g.totalWeight < inf) : SumsExact g a b := by
  refine searchSums_forall hg ha (fun _ h => h) (fun d s cur h _ hn _ e he => ?_) (searchInv_init g a) rfl
  obtain ⟨-, -, hi, -⟩ := h.nearest_some hg ha hn
  have hedge : g.Edge cur e.toIndex e.weightMin := ⟨e, he, rfl, rfl⟩
  have hc := hg.edge_le_total hedge
  have hinf : inf + inf ≤ intMax := by decide
  exact toInt32_add (h.dist_nonneg hg hi) (hg.edge_pos _ _ _ hedge) (by omega)

theorem graphFindPath_sound (hg : GraphOk g) (hw : g.totalWeight < inf) {mem : Bool}
    {path : GraphPath} (hp : graphFindPath mem g a b = some path) : ShortestPath g a b path := by
  cases mem with
  | false =>
    rw [graphFindPath_eq ha hb] at hp
    cases hp
  | true =>
    obtain ⟨found, s, -, -, hnone, hsome⟩ :=
      graphFindPath_end ha hb hg (sumsExact_of_totalWeight ha hg hw)
    cases found with
    | false =>
      rw [hnone rfl] at hp
      cases hp
    | true =>
      obtain ⟨l, hl, hfirst, hpath⟩ := hsome rfl
      rw [hpath] at hp
      split at hp
      · rename_i hfit
        cases hp
        exact shortestPath_of_chain hg hl hfit fun l' w' => hfirst.minimal hg.edge_nonneg
      · cases hp

theorem graphFindPath_complete (hg : GraphOk g) (hw : g.totalWeight < inf)
    (hwalk : ∃ l w, Walk g.Edge a b l w)
    (hfit : ∀ l w, Walk g.Edge a b l w → (∀ l' w', Walk g.Edge a b l' w' → w ≤ w') →
      l.length ≤ maxGraphPath) : (graphFindPath true g a b).isSome := by
  obtain ⟨found, s, hend, -, -, hsome⟩ :=
    graphFindPath_end ha hb hg (sumsExact_of_totalWeight ha hg hw)
  cases found with
  | false =>
    obtain ⟨l, w, hwalk⟩ := hwalk
    refine absurd hwalk (hend.not_walk hg ha (fun d hinv u v c hu he => ?_) l w)
    refine hinv.dist_add_lt hg.edge_le_outWeight (fun l hd hl => ?_) hu he
    refine Int.lt_of_le_of_lt (hg.sum_outWeight_le hd fun x hx => ?_) hw
    exact hinv.lt_nodeCount hg ha (hinv.reached x (hl x hx))
  | true =>
    obtain ⟨l, hl, hfirst, hpath⟩ := hsome rfl
    rw [hpath, if_pos (hfit l _ hl.walk fun l' w' => hfirst.minimal hg.edge_nonneg)]
    rfl

end

/-- `graph_find_path` on a graph that any calls have built, of a weight below
`INT_MAX / 4`. -/
theorem graphFindPath_shortest (calls : List (GraphCall D)) {a b : Nat}
    (ha : a < (runCalls calls).nodeCount) (hb : b < (runCalls calls).nodeCount)
    (hw : (runCalls calls).totalWeight < inf) :
    (∀ mem path, graphFindPath mem (runCalls calls) a b = some path →
      ShortestPath (runCalls calls) a b path) ∧
    ((∃ l w, Walk (runCalls calls).Edge a b l w) →
      (∀ l w, Walk (runCalls calls).Edge a b l w →
        (∀ l' w', Walk (runCalls calls).Edge a b l' w' → w ≤ w') → l.length ≤ maxGraphPath) →
      (graphFindPath true (runCalls calls) a b).isSome) :=
  ⟨fun _ _ => graphFindPath_sound ha hb (graphOk_runCalls calls) hw,
    graphFindPath_complete ha hb (graphOk_runCalls calls) hw⟩

/-- Two nodes and an edge of five minutes. -/
def twoNodeCalls : List (GraphCall ℚ) :=
  [.addNode true (utf8 "A") (utf8 "a") (utf8 "stop") 0 0,
    .addNode true (utf8 "B") (utf8 "b") (utf8 "stop") 0 0, .addEdge true 0 1 5 (utf8 "7")]

theorem graphFindPath_shortest_twoNodeCalls : ∃ path,
    graphFindPath true (runCalls twoNodeCalls) (0 : Nat) (1 : Nat) = some path ∧
      ShortestPath (runCalls twoNodeCalls) 0 1 path := by
  have h := graphFindPath_shortest twoNodeCalls (a := 0) (b := 1) (by decide) (by decide) (by decide)
  have hsome : (graphFindPath true (runCalls twoNodeCalls) (0 : Nat) (1 : Nat)).isSome = true := by
    decide +kernel
  obtain ⟨path, hp⟩ := Option.isSome_iff_exists.mp hsome
  exact ⟨path, hp, h.1 true path hp⟩

end Transit
