import Transit.Common.GraphArrays
import Transit.Framework.Folds
import Transit.Proof.PathSearch

/-!
# `graph_find_path` stays inside its arrays

The search over arrays keeps the tables of `graphFindPath` (`SearchArrays.Keeps`)
as long as edges lead to nodes of the graph. Going back from a node that was
reached meets only nodes that were reached (`Linked`), so `prev[-1]` is never
read; nothing is assumed of the weights, sums that wrap around included.

* `graphFindPathArrays_eq`: after any calls that build a graph, the code with its
  arrays ends, accesses nothing outside of them and returns what `graphFindPath` says.
-/

namespace Transit

open Framework

variable {D : Type} {g : TransferGraph D} {n : Nat}

/-- What `prev[i]` holds. -/
def prevIndex : Option Nat → Int
  | none => -1
  | some p => p

/-- The arrays hold the tables of the search. -/
structure SearchArrays.Keeps (a : SearchArrays n) (s : Search) : Prop where
  prev : a.prev.Table fun i => prevIndex (s.prev i)
  dist : a.dist.Table s.dist
  visited : a.visited.Table s.visited

theorem prevIndex_update (prev : Nat → Option Nat) (i p : Nat) :
    Function.update (fun j => prevIndex (prev j)) i (p : Int) =
      fun j => prevIndex (Function.update prev i (some p) j) := by
  funext j
  by_cases hj : j = i
  · rw [hj, Function.update_self, Function.update_self]
    rfl
  · rw [Function.update_of_ne hj, Function.update_of_ne hj]

theorem keeps_searchInit {a : Nat} (ha : a < n) :
    ∃ s, searchInitArrays n a = some s ∧ s.Keeps (searchInit a) := by
  obtain ⟨dist, hdist, hdistTable⟩ := (FixedArray.table_fill inf).write ha 0
  obtain ⟨prev, hprev, hprevTable⟩ := (FixedArray.table_fill (-1 : Int)).write ha (a : Int)
  refine ⟨⟨prev, dist, .fill n false⟩, ?_, ⟨?_, hdistTable, FixedArray.table_fill false⟩⟩
  · unfold searchInitArrays
    rw [hdist, Option.bind_some, hprev]
    rfl
  · have heq := prevIndex_update (fun _ => none) a a
    exact fun i hi => (hprevTable i hi).trans (congrArg some (congrFun heq i))

/-! ## One round -/

theorem SearchArrays.Keeps.nearest {a : SearchArrays n} {s : Search} (h : a.Keeps s) :
    nearestArrays a = some (prevIndex (nearest n s)) := by
  have hstep : ∀ i ∈ List.range n, ∀ (best : Int × Int) (best' : Int × Option Nat),
      best = (best'.1, prevIndex best'.2) →
      ∃ next, nearerArrays a best i = some next ∧ next = ((nearer s best' i).1, prevIndex (nearer s best' i).2) := by
    rintro i hi best best' rfl
    have hi := List.mem_range.mp hi
    refine ⟨_, ?_, rfl⟩
    unfold nearerArrays nearer
    rw [h.visited i hi, Option.bind_some, h.dist i hi, Option.bind_some]
    cases s.visited i with
    | true => rfl
    | false =>
      by_cases hlt : s.dist i < best'.1
      · simp [hlt, prevIndex]
      · simp [hlt]
  obtain ⟨best, hbest, rfl⟩ := foldlM_follows hstep (t := (inf, none)) rfl
  exact congrArg (Option.map Prod.snd) hbest

theorem SearchArrays.Keeps.relax {a : SearchArrays n} {s : Search} (h : a.Keeps s) {cur : Nat} (hcur : cur < n)
    {edge : GraphEdge} (hedge : edge.toIndex < n) :
    ∃ a', relaxArrays cur a edge = some a' ∧ a'.Keeps (relax cur s edge) := by
  unfold relaxArrays Transit.relax
  dsimp only
  rw [h.dist cur hcur, Option.bind_some, h.visited _ hedge, Option.bind_some, h.dist _ hedge, Option.bind_some]
  cases hv : s.visited edge.toIndex with
  | true => exact ⟨a, rfl, h⟩
  | false =>
    by_cases hlt : toInt32 (s.dist cur + edge.weightMin) < s.dist edge.toIndex
    · obtain ⟨dist, hdist, hdistTable⟩ := h.dist.write hedge (toInt32 (s.dist cur + edge.weightMin))
      obtain ⟨prev, hprev, hprevTable⟩ := h.prev.write hedge (cur : Int)
      rw [if_neg Bool.false_ne_true, if_pos hlt, hdist, Option.bind_some, hprev, if_pos (by simpa using hlt)]
      refine ⟨_, rfl, ⟨?_, hdistTable, h.visited⟩⟩
      rw [prevIndex_update] at hprevTable
      exact hprevTable
    · rw [if_neg Bool.false_ne_true, if_neg hlt, if_neg (by simpa using hlt)]
      exact ⟨a, rfl, h⟩

theorem SearchArrays.Keeps.visit {a : SearchArrays n} {s : Search} (h : a.Keeps s) {cur : Nat} (hcur : cur < n) :
    ∃ visited, a.visited.write cur true = some visited ∧
      SearchArrays.Keeps { a with visited := visited } (visit cur s) := by
  obtain ⟨visited, hvisited, htable⟩ := h.visited.write hcur true
  exact ⟨visited, hvisited, ⟨h.prev, h.dist, htable⟩⟩

/-! ## What was reached -/

/-- Nodes not reached are as far as at the start, and the others come from nodes
that were reached. -/
structure Linked (n : Nat) (s : Search) : Prop where
  far : ∀ v, s.prev v = none → s.dist v = inf
  back : ∀ v p, s.prev v = some p → p < n ∧ s.prev p ≠ none

theorem linked_searchInit {a : Nat} (ha : a < n) : Linked n (searchInit a) := by
  refine ⟨fun v hv => ?_, fun v p hp => ?_⟩
  · by_cases hva : v = a
    · rw [hva] at hv
      simp [searchInit] at hv
    · simp [searchInit, hva]
  · by_cases hva : v = a
    · rw [hva] at hp
      obtain rfl : a = p := by simpa [searchInit] using hp
      exact ⟨ha, by simp [searchInit]⟩
    · simp [searchInit, hva] at hp

theorem Linked.visit {s : Search} (h : Linked n s) (cur : Nat) : Linked n (visit cur s) := ⟨h.far, h.back⟩

/-- An edge gives its end a distance and a predecessor together, or changes nothing. -/
theorem relax_cases (cur : Nat) (s : Search) (edge : GraphEdge) : relax cur s edge = s ∨
    ∃ d, relax cur s edge = { s with dist := Function.update s.dist edge.toIndex d,
                                     prev := Function.update s.prev edge.toIndex (some cur) } := by
  unfold relax
  dsimp only
  split
  · exact .inr ⟨_, rfl⟩
  · exact .inl rfl

/-- A predecessor is replaced, never taken away. -/
theorem prev_relax {s : Search} {v : Nat} (h : s.prev v ≠ none) (cur : Nat) (edge : GraphEdge) :
    (relax cur s edge).prev v ≠ none := by
  obtain heq | ⟨d, heq⟩ := relax_cases cur s edge
  · rw [heq]
    exact h
  · rw [heq]
    by_cases hv : v = edge.toIndex
    · simp [hv]
    · simpa [hv] using h

theorem Linked.relax {s : Search} (h : Linked n s) {cur : Nat} (hcur : cur < n) (hreached : s.prev cur ≠ none)
    (edge : GraphEdge) : Linked n (relax cur s edge) := by
  have hkeep : ∀ v, s.prev v ≠ none → (Transit.relax cur s edge).prev v ≠ none := fun v hv => prev_relax hv cur edge
  obtain heq | ⟨d, heq⟩ := relax_cases cur s edge
  · rw [heq]
    exact h
  · rw [heq] at hkeep ⊢
    refine ⟨fun v hv => ?_, fun v p hp => ?_⟩
    · by_cases hve : v = edge.toIndex
      · simp [hve] at hv
      · have hnone : s.prev v = none := by simpa [hve] using hv
        simpa [hve] using h.far v hnone
    · by_cases hve : v = edge.toIndex
      · obtain rfl : cur = p := by simpa [hve] using hp
        exact ⟨hcur, hkeep cur hreached⟩
      · have hp : s.prev v = some p := by simpa [hve] using hp
        exact ⟨(h.back v p hp).1, hkeep p (h.back v p hp).2⟩

theorem nearest_reached {s : Search} (h : Linked n s) {cur : Nat} (hcur : nearest n s = some cur) :
    cur < n ∧ s.visited cur = false ∧ s.prev cur ≠ none := by
  obtain ⟨hlt, hv, -, hdist⟩ := (nearestBelow_foldl s n).some cur hcur
  refine ⟨hlt, hv, fun hnone => ?_⟩
  rw [h.far cur hnone] at hdist
  exact Int.lt_irrefl _ hdist

/-! ## The search -/

/-- The arrays of a search that keeps to the tables, with what was reached. -/
structure SearchArrays.Follows (a : SearchArrays n) (s : Search) : Prop where
  keeps : a.Keeps s
  linked : Linked n s

/-- The edges out of a node that was reached. -/
theorem SearchArrays.Follows.relaxAll {a : SearchArrays n} {s : Search} (h : a.Follows s) {cur : Nat} (hcur : cur < n)
    (hreached : s.prev cur ≠ none) {es : List GraphEdge} (hes : ∀ e ∈ es, e.toIndex < n) :
    ∃ a', es.foldlM (relaxArrays cur) a = some a' ∧ a'.Follows (es.foldl (relax cur) s) := by
  have hstep : ∀ e ∈ es, ∀ (a : SearchArrays n) (s : Search), a.Follows s ∧ s.prev cur ≠ none →
      ∃ a', relaxArrays cur a e = some a' ∧ a'.Follows (relax cur s e) ∧ (relax cur s e).prev cur ≠ none := by
    intro e he a s h
    obtain ⟨a', hrelax, hkeeps⟩ := h.1.keeps.relax hcur (hes e he)
    exact ⟨a', hrelax, ⟨hkeeps, h.1.linked.relax hcur h.2 e⟩, prev_relax h.2 cur e⟩
  obtain ⟨a', hloop, hfollows, -⟩ := foldlM_follows hstep ⟨h, hreached⟩
  exact ⟨a', hloop, hfollows⟩

/-- The rounds left are enough, and the node found was reached. -/
theorem searchLoopArrays_follows (hedges : ∀ i, ∀ e ∈ g.edgesAt i, e.toIndex < g.nodeCount) (b : Nat) {fuel : Nat}
    {a : SearchArrays g.nodeCount} {s : Search} (h : a.Follows s) (hfuel : (unvisited g.nodeCount s).card < fuel) :
    ∃ a', searchLoopArrays g b fuel a = some (a', (searchLoop g b fuel s).2) ∧
      a'.Follows (searchLoop g b fuel s).1 ∧
      ((searchLoop g b fuel s).2 = true → (searchLoop g b fuel s).1.prev b ≠ none) := by
  induction fuel generalizing a s with
  | zero => exact absurd hfuel (Nat.not_lt_zero _)
  | succ fuel ih =>
    unfold searchLoopArrays searchLoop
    rw [h.keeps.nearest, Option.bind_some]
    cases hnear : nearest g.nodeCount s with
    | none => exact ⟨a, rfl, h, fun hfound => by cases hfound⟩
    | some cur =>
      obtain ⟨hcur, hv, hreached⟩ := nearest_reached h.linked hnear
      obtain ⟨visited, hvisit, hkeeps⟩ := h.keeps.visit hcur
      have hnext : SearchArrays.Follows { a with visited := visited } (visit cur s) := ⟨hkeeps, h.linked.visit cur⟩
      have hcast : (prevIndex (some cur)).toNat = cur := rfl
      have hpos : ¬ prevIndex (some cur) < 0 := Int.not_lt.mpr (Int.natCast_nonneg cur)
      dsimp only
      rw [if_neg hpos, hcast, hvisit, Option.bind_some]
      by_cases hcb : cur = b
      · rw [if_pos (by rw [hcb]; rfl), if_pos hcb]
        exact ⟨_, rfl, hnext, fun _ => by rw [← hcb]; exact hreached⟩
      · have hne : ¬ prevIndex (some cur) = (b : Int) := fun heq => hcb (Int.natCast_inj.mp heq)
        obtain ⟨node, hnode⟩ : ∃ node, g.nodes[cur]? = some node := ⟨_, List.getElem?_eq_getElem hcur⟩
        have hes : g.edgesAt cur = node.edges := by
          unfold TransferGraph.edgesAt
          rw [hnode]
        obtain ⟨a', hrelax, hfollows⟩ := hnext.relaxAll hcur hreached fun e he => hedges cur e he
        have hcard : (unvisited g.nodeCount ((g.edgesAt cur).foldl (relax cur) (visit cur s))).card < fuel :=
          Nat.lt_of_lt_of_le (card_unvisited_visit hcur hv (foldl_relax_visited ..)) (Nat.le_of_lt_succ hfuel)
        rw [hes] at hrelax hfollows hcard
        rw [if_neg hne, if_neg hcb, hnode, Option.bind_some, hrelax, Option.bind_some, hes]
        exact ih hfollows hcard

/-! ## The path -/

def indexList (l : List Nat) : List Int := l.map fun i : Nat => (i : Int)

/-- Going back over the array writes what going back over the table lists. -/
theorem backtrackArrays_follows {prevArray : FixedArray Int n} {prev : Nat → Option Nat}
    (htable : prevArray.Table fun i => prevIndex (prev i))
    (hback : ∀ v p, prev v = some p → p < n ∧ prev p ≠ none) (a : Nat) {room : Nat}
    {rev : FixedArray Int maxGraphPath} {l : List Nat} (hl : indexList l <+: rev.val)
    (hroom : l.length + room = maxGraphPath) {cur : Nat} (hcur : cur < n) (hreached : prev cur ≠ none) :
    ∃ rev', backtrackArrays prevArray a room rev l.length cur =
        some (rev', (l ++ backtrack prev a room cur).length) ∧
      indexList (l ++ backtrack prev a room cur) <+: rev'.val := by
  induction room generalizing rev l cur with
  | zero =>
    rw [backtrack, List.append_nil]
    exact ⟨rev, rfl, hl⟩
  | succ room ih =>
    have hlen : (indexList l).length = l.length := List.length_map ..
    obtain ⟨rev₁, hwrite, hrev₁⟩ := FixedArray.write_behind hl (by omega) (cur : Int)
    rw [hlen] at hwrite
    have hl₁ : indexList (l ++ [cur]) <+: rev₁.val := by
      unfold indexList at hrev₁ ⊢
      rw [List.map_append]
      exact hrev₁
    unfold backtrackArrays backtrack
    rw [hwrite, Option.bind_some]
    by_cases hca : cur = a
    · rw [if_pos (by rw [hca]), if_pos hca]
      exact ⟨rev₁, by rw [List.length_append]; rfl, hl₁⟩
    · rw [if_neg (fun heq => hca (Int.natCast_inj.mp heq)), if_neg hca]
      cases hprev : prev cur with
      | none => exact absurd hprev hreached
      | some p =>
        have hread : readInt prevArray (cur : Int) = some (p : Int) := by
          have hcell : prevArray.read cur = some (prevIndex (prev cur)) := htable cur hcur
          rw [hprev] at hcell
          exact hcell
        have hnext := ih hl₁ (by rw [List.length_append, List.length_singleton]; omega) (hback cur p hprev).1
          (hback cur p hprev).2
        rw [List.length_append, List.length_singleton, List.append_assoc] at hnext
        rw [hread, Option.bind_some]
        exact hnext

/-- The arrays that a path fills. -/
def GraphPathArrays.ofPath (path : GraphPath) : GraphPathArrays where
  indices := .ofList _ 0 (indexList path.indices)
  segmentRoutes := .ofList _ (.copy _ []) path.segmentRoutes
  segmentMinutes := .ofList _ 0 path.segmentMinutes
  count := path.count
  totalMinutes := path.totalMinutes

theorem copyIndex_loop {rev : FixedArray Int maxGraphPath} {l : List Nat} (hl : indexList l <+: rev.val)
    {path : GraphPathArrays} (hpath : path.indices = .fill _ 0) :
    (List.range l.length).foldlM (copyIndex rev l.length) path =
      some { path with indices := .ofList _ 0 (indexList l.reverse) } := by
  have hlen : (indexList l).length = l.length := List.length_map ..
  have hfits : l.length ≤ maxGraphPath := by
    have := hl.length_le
    rw [rev.2] at this
    omega
  have hstep : ∀ i < l.length, copyIndex rev l.length
      { path with indices := .ofList _ 0 ((indexList l.reverse).take i) } i =
        some { path with indices := .ofList _ 0 ((indexList l.reverse).take (i + 1)) } := by
    intro i hi
    have hrevlen : (indexList l.reverse).length = l.length := by
      unfold indexList
      rw [List.length_map, List.length_reverse]
    have hread : rev.read (l.length - i - 1) = some (indexList l.reverse)[i] := by
      rw [FixedArray.read_start hl (by omega), List.getElem?_eq_getElem (by omega), Option.some_inj]
      simp only [indexList, List.getElem_map, List.getElem_reverse, Nat.sub_right_comm]
    have htake : ((indexList l.reverse).take i).length = i := by
      rw [List.length_take]
      omega
    have hwrite := FixedArray.write_ofList (n := maxGraphPath) (s := (indexList l.reverse).take i) (0 : Int)
      (by omega) (indexList l.reverse)[i]
    rw [htake, ← List.take_succ_eq_append_getElem (by omega)] at hwrite
    unfold copyIndex
    rw [hread, Option.bind_some]
    dsimp only
    rw [hwrite]
    rfl
  have hloop := foldlM_range hstep
  rw [List.take_zero, FixedArray.ofList_nil, ← hpath] at hloop
  rw [hloop, List.take_of_length_le (by unfold indexList; rw [List.length_map, List.length_reverse])]

theorem graphFindEdgeInt_natCast (g : TransferGraph D) (u v : Nat) :
    graphFindEdgeInt g u v = graphFindEdge g u v := by
  unfold graphFindEdgeInt graphFindEdge
  by_cases hu : u < g.nodeCount
  · rw [if_neg (by omega), Int.toNat_natCast]
    congr 1
    funext edge
    exact Bool.eq_iff_iff.mpr (by simp)
  · rw [if_pos (by omega), edgesAt_of_le (by omega)]
    rfl

/-- The times and routes written for the first segments; where there is no edge,
what was cleared stays. -/
theorem fillSegment_loop (g : TransferGraph D) {l : List Nat} (hfits : l.length ≤ maxGraphPath)
    {path : GraphPathArrays} (hindices : path.indices = .ofList _ 0 (indexList l))
    (hroutes : path.segmentRoutes = .fill _ (.copy _ [])) (hminutes : path.segmentMinutes = .fill _ 0) :
    (List.range (l.length - 1)).foldlM (fillSegment g) path =
      some { path with
        segmentRoutes := .ofList _ (.copy _ []) ((List.zipWith (segment g) l l.tail).map (·.2))
        segmentMinutes := .ofList _ 0 ((List.zipWith (segment g) l l.tail).map (·.1)) } := by
  have hcount : (List.zipWith (segment g) l l.tail).length = l.length - 1 := by
    rw [List.length_zipWith, List.length_tail]
    omega
  have hlen : (indexList l).length = l.length := List.length_map ..
  generalize hsegs : List.zipWith (segment g) l l.tail = segs at hcount ⊢
  have hstep : ∀ i < l.length - 1, fillSegment g
      { path with segmentRoutes := .ofList _ (.copy _ []) ((segs.take i).map (·.2))
                  segmentMinutes := .ofList _ 0 ((segs.take i).map (·.1)) } i =
        some { path with segmentRoutes := .ofList _ (.copy _ []) ((segs.take (i + 1)).map (·.2))
                         segmentMinutes := .ofList _ 0 ((segs.take (i + 1)).map (·.1)) } := by
    intro i hi
    have hread : ∀ j (hj : j < l.length), path.indices.read j = some ((l[j] : Nat) : Int) := by
      intro j hj
      rw [hindices, FixedArray.read_ofList (by omega) (by omega), List.getElem?_eq_getElem (by omega), Option.some_inj]
      exact List.getElem_map ..
    have hseg : segs[i] = segment g l[i] l[i + 1] := by
      subst hsegs
      rw [List.getElem_zipWith, List.getElem_tail]
    have hroutes := FixedArray.write_ofList (n := maxGraphPath) (s := (segs.take i).map (·.2)) (.copy _ [])
      (by rw [List.length_map, List.length_take]; omega)
    have hminutes := FixedArray.write_ofList (n := maxGraphPath) (s := (segs.take i).map (·.1)) 0
      (by rw [List.length_map, List.length_take]; omega)
    rw [List.length_map, List.length_take, Nat.min_eq_left (by omega)] at hroutes hminutes
    unfold fillSegment
    dsimp only
    rw [hread i (by omega), Option.bind_some, hread (i + 1) (by omega), Option.bind_some, graphFindEdgeInt_natCast,
      List.take_succ_eq_append_getElem (by omega), List.map_append, List.map_append, List.map_singleton,
      List.map_singleton, hseg]
    unfold segment
    cases graphFindEdge g l[i] l[i + 1] with
    | none =>
      rw [FixedArray.ofList_concat_pad _ (by rw [List.length_map, List.length_take]; omega),
        FixedArray.ofList_concat_pad _ (by rw [List.length_map, List.length_take]; omega)]
    | some edge =>
      dsimp only
      rw [hminutes, Option.bind_some, hroutes]
      rfl
  have hloop := foldlM_range hstep
  simp only [List.take_zero, List.map_nil, FixedArray.ofList_nil, ← hroutes, ← hminutes] at hloop
  rw [hloop, List.take_of_length_le (by omega)]

/-! ## The whole call -/

/-- What a call leaves in `path` and returns, by the path that was found. -/
def returned (g : TransferGraph D) (fromIndex toIndex : Int) (path : GraphPathArrays) :
    Option GraphPath → GraphPathArrays × Bool
  | some found => (.ofPath found, true)
  | none =>
    (if fromIndex < 0 ∨ toIndex < 0 ∨ fromIndex ≥ g.nodeCount ∨ toIndex ≥ g.nodeCount then path else .cleared, false)

/-- The loops behind the search: the indices are copied, then the segments filled. -/
theorem pathArrays_eq (g : TransferGraph D) {l : List Nat} {rev : FixedArray Int maxGraphPath}
    (hrev : indexList l <+: rev.val) (totalMinutes : Int) :
    ∃ path, (List.range l.length).foldlM (copyIndex rev l.length)
        { GraphPathArrays.cleared with count := l.length, totalMinutes := totalMinutes } = some path ∧
      (List.range (l.length - 1)).foldlM (fillSegment g) path =
        some (.ofPath { indices := l.reverse
                        segmentRoutes := (List.zipWith (segment g) l.reverse l.reverse.tail).map (·.2)
                        segmentMinutes := (List.zipWith (segment g) l.reverse l.reverse.tail).map (·.1)
                        totalMinutes := totalMinutes }) := by
  have hfits : l.reverse.length ≤ maxGraphPath := by
    have hle := hrev.length_le
    rw [rev.2] at hle
    unfold indexList at hle
    rwa [List.length_map, ← List.length_reverse] at hle
  refine ⟨_, copyIndex_loop hrev rfl, ?_⟩
  rw [← List.length_reverse, fillSegment_loop g hfits rfl rfl rfl]
  rfl

/-- Whatever calls built the graph, whatever stood in `path` and `rev` before and
whether or not memory is there: all accesses are inside the arrays, the search
ends, and the outcome is that of `graphFindPath`. -/
theorem graphFindPathArrays_eq (calls : List (GraphCall D)) (mem : Bool) (fromIndex toIndex : Int)
    (path : GraphPathArrays) (rev : FixedArray Int maxGraphPath) :
    let g := runCalls calls
    graphFindPathArrays mem g fromIndex toIndex path rev =
      some (returned g fromIndex toIndex path (graphFindPath mem g fromIndex toIndex)) := by
  intro g
  have hedges : ∀ i, ∀ e ∈ g.edgesAt i, e.toIndex < g.nodeCount := fun i => ((graphOk_runCalls calls).edges i).bound
  unfold graphFindPathArrays
  by_cases hrange : fromIndex < 0 ∨ toIndex < 0 ∨ fromIndex ≥ g.nodeCount ∨ toIndex ≥ g.nodeCount
  · have hnone : graphFindPath mem g fromIndex toIndex = none := if_pos hrange
    rw [hnone, if_pos hrange]
    unfold returned
    rw [if_pos hrange]
  · rw [if_neg hrange]
    obtain ⟨a, rfl⟩ := Int.eq_ofNat_of_zero_le (show 0 ≤ fromIndex by omega)
    obtain ⟨b, rfl⟩ := Int.eq_ofNat_of_zero_le (show 0 ≤ toIndex by omega)
    have ha : a < g.nodeCount := by omega
    have hb : b < g.nodeCount := by omega
    rw [graphFindPath_eq ha hb]
    cases mem with
    | false =>
      unfold returned
      rw [if_neg hrange]
      rfl
    | true =>
      obtain ⟨init, hinit, hkeeps⟩ := keeps_searchInit ha
      have hcard : (unvisited g.nodeCount (searchInit a)).card < g.nodeCount + 1 :=
        Nat.lt_succ_of_le ((Finset.card_filter_le ..).trans (by simp))
      obtain ⟨s', hloop, hfollows, hfound⟩ := searchLoopArrays_follows hedges b
        ⟨hkeeps, linked_searchInit ha⟩ hcard
      rw [if_neg (show ¬ (!true) = true by decide), Int.toNat_natCast, Int.toNat_natCast, hinit, Option.bind_some,
        hloop, Option.bind_some]
      generalize searchLoop g b (g.nodeCount + 1) (searchInit a) = result at hfollows hfound ⊢
      obtain ⟨s, found⟩ := result
      cases found with
      | false =>
        unfold returned
        rw [if_neg hrange]
        rfl
      | true =>
        obtain ⟨rev', hback, hrev'⟩ := backtrackArrays_follows (l := []) hfollows.keeps.prev hfollows.linked.back a
          (show indexList [] <+: rev.val from List.nil_prefix) (Nat.zero_add maxGraphPath) hb (hfound rfl)
        rw [List.nil_append, List.length_nil] at hback
        rw [List.nil_append] at hrev'
        have hdist : readInt s'.dist (b : Int) = some (s.dist b) := hfollows.keeps.dist b hb
        have hne : backtrack s.prev a maxGraphPath b ≠ [] := List.cons_ne_nil _ _
        dsimp only
        rw [if_pos rfl, hback, Option.bind_some, if_pos rfl]
        generalize backtrack s.prev a maxGraphPath b = l at hrev' hne ⊢
        have hpos := List.length_pos_iff.mpr hne
        have hlast : rev'.read (l.length - 1) = some ((l.getLast hne : Nat) : Int) := by
          have hlen : (indexList l).length = l.length := List.length_map ..
          rw [FixedArray.read_start hrev' (by omega), List.getElem?_eq_getElem (by omega), Option.some_inj,
            List.getLast_eq_getElem]
          exact List.getElem_map ..
        rw [if_pos hpos, hlast, Option.bind_some, List.getLast?_eq_some_getLast hne]
        by_cases hsource : l.getLast hne = a
        · obtain ⟨filled, hcopy, hfill⟩ := pathArrays_eq g hrev' (s.dist b)
          rw [if_pos (by rw [hsource]), hdist, Option.bind_some, if_pos (by rw [hsource])]
          refine (congrArg (Option.bind · _) hcopy).trans ?_
          rw [Option.bind_some, hfill, Option.map_some]
          have hcount : decide (l.reverse.length > 0) = true := decide_eq_true (by rw [List.length_reverse]; exact hpos)
          exact congrArg (fun returns => some (_, returns)) hcount
        · rw [if_neg (fun heq => hsource (Int.natCast_inj.mp heq)), if_neg (by simpa using hsource)]
          unfold returned
          rw [if_neg hrange]

end Transit
