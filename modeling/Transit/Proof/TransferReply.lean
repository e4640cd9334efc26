import Transit.Proof.Buffers
import Transit.Proof.LoadedStore
import Transit.Proof.PathSearch
import Transit.Server.TransferService

/-!
# What `handle_transfer` answers

`transferText` is the whole text for a path. The names and the summary always
fit the buffer; the steps are cut where it ends (`appendSteps_eq`). So the
response is that text with its line feed when both fit, and otherwise the first
`MAX_PACKET_SIZE - 1` bytes of it, without one (`transferResponse_eq`).
-/

namespace Transit

variable {D : Type}

/-! ## What a path found is like -/

/-- What visiting a node and relaxing an edge out of one keep, the search keeps. -/
theorem searchLoop_keeps {g : TransferGraph D} {P : Search → Prop} (hvisit : ∀ cur s, P s → P (visit cur s))
    (hrelax : ∀ cur < g.nodeCount, ∀ edge s, P s → P (relax cur s edge)) {s : Search} (h : P s)
    (toIndex fuel : Nat) : P (searchLoop g toIndex fuel s).1 := by
  induction fuel generalizing s with
  | zero => exact h
  | succ fuel ih =>
    unfold searchLoop
    split
    · exact h
    · rename_i cur hcur
      have hlt := ((nearestBelow_foldl s g.nodeCount).some cur hcur).1
      dsimp only
      split
      · exact hvisit cur s h
      · exact ih (List.foldlRecOn _ _ (hvisit cur s h) fun s hs edge _ => hrelax cur hlt edge s hs)

/-- The distances are values of `int`. -/
theorem isInt32_relax (cur : Nat) (edge : GraphEdge) (s : Search) (h : ∀ v, IsInt32 (s.dist v)) :
    ∀ v, IsInt32 ((relax cur s edge).dist v) := by
  unfold relax
  dsimp only
  split
  · intro v
    by_cases hv : v = edge.toIndex
    · subst hv
      simp only [Function.update_self]
      exact isInt32_toInt32 _
    · simp only [Function.update_of_ne hv]
      exact h v
  · exact h

theorem isInt32_searchInit {a : Nat} (v : Nat) : IsInt32 ((searchInit a).dist v) := by
  simp only [searchInit]
  by_cases hv : v = a
  · rw [hv, Function.update_self]; exact ⟨by decide, by decide⟩
  · rw [Function.update_of_ne hv]; exact ⟨by decide, by decide⟩

theorem length_backtrack_le (prev : Nat → Option Nat) (a room v : Nat) :
    (backtrack prev a room v).length ≤ room := by
  induction room generalizing v with
  | zero => exact Nat.le_refl _
  | succ room ih =>
    simp only [backtrack, List.length_cons]
    split
    · simp
    · split
      · simp
      · exact Nat.succ_le_succ (ih _)

/-- The predecessors stored are nodes of the graph. -/
def PrevBelow (n : Nat) (s : Search) : Prop := ∀ v u, s.prev v = some u → u < n

theorem prevBelow_relax {n cur : Nat} (hcur : cur < n) (edge : GraphEdge) (s : Search) (h : PrevBelow n s) :
    PrevBelow n (relax cur s edge) := by
  unfold relax
  dsimp only
  split
  · intro v u hu
    by_cases hv : v = edge.toIndex
    · rw [hv] at hu
      simp only [Function.update_self, Option.some.injEq] at hu
      rwa [← hu]
    · simp only [Function.update_of_ne hv] at hu
      exact h v u hu
  · exact h

theorem prevBelow_searchInit {n a : Nat} (ha : a < n) : PrevBelow n (searchInit a) := by
  intro v u hu
  unfold searchInit at hu
  by_cases hv : v = a
  · rw [hv] at hu
    simp only [Function.update_self, Option.some.injEq] at hu
    rwa [← hu]
  · simp only [Function.update_of_ne hv] at hu
    cases hu

theorem backtrack_lt {n : Nat} {s : Search} (h : PrevBelow n s) (a room : Nat) {v : Nat} (hv : v < n) :
    ∀ i ∈ backtrack s.prev a room v, i < n := by
  induction room generalizing v with
  | zero => intro i hi; cases hi
  | succ room ih =>
    unfold backtrack
    refine List.forall_mem_cons.mpr ⟨hv, ?_⟩
    split
    · intro i hi; cases hi
    · split
      · intro i hi; cases hi
      · rename_i p hp
        exact ih (h v p hp)

/-- What `graph_find_path` stores, whatever the graph is. -/
structure PathShape (g : TransferGraph D) (path : GraphPath) : Prop where
  count : path.count ≤ maxGraphPath
  indices_lt : ∀ i ∈ path.indices, i < g.nodeCount
  routes_length : path.segmentRoutes.length = path.count - 1
  minutes_length : path.segmentMinutes.length = path.count - 1
  total : IsInt32 path.totalMinutes
  routes : ∀ r ∈ path.segmentRoutes, r.val = [] ∨ ∃ u, ∃ e ∈ g.edgesAt u, r = e.routeNo
  minutes : ∀ m ∈ path.segmentMinutes, m = 0 ∨ ∃ u, ∃ e ∈ g.edgesAt u, m = e.weightMin

/-- What any path is like whose nodes are in the graph. -/
structure PathRecord (g : TransferGraph D) (path : GraphPath) : Prop where
  count : path.count ≤ maxGraphPath
  indices_lt : ∀ i ∈ path.indices, i < g.nodeCount
  routes_length : path.segmentRoutes.length = path.count - 1
  minutes_length : path.segmentMinutes.length = path.count - 1
  total : IsInt32 path.totalMinutes

theorem PathShape.record {g : TransferGraph D} {path : GraphPath} (h : PathShape g path) : PathRecord g path :=
  ⟨h.count, h.indices_lt, h.routes_length, h.minutes_length, h.total⟩

/-- A segment is an edge, or nothing. -/
theorem segment_cases (g : TransferGraph D) (u v : Nat) :
    segment g u v = (0, .copy _ []) ∨ ∃ e ∈ g.edgesAt u, segment g u v = (e.weightMin, e.routeNo) := by
  unfold segment
  split
  · rename_i e he
    exact .inr ⟨e, List.mem_of_find?_eq_some he, rfl⟩
  · exact .inl rfl

theorem graphFindPath_shape {mem : Bool} {g : TransferGraph D} {a b : Int} {path : GraphPath}
    (h : graphFindPath mem g a b = some path) : PathShape g path := by
  unfold graphFindPath at h
  split at h
  · cases h
  · rename_i hrange
    split at h
    · cases h
    · dsimp only at h
      split at h
      · split at h
        · cases h
          have hsegment : ∀ indices : List Nat, ∀ p ∈ List.zipWith (segment g) indices indices.tail,
              p = (0, .copy _ []) ∨ ∃ u, ∃ e ∈ g.edgesAt u, p = (e.weightMin, e.routeNo) := by
            intro indices p hp
            obtain ⟨i, hi, rfl⟩ := List.mem_iff_getElem.mp hp
            rw [List.getElem_zipWith]
            exact (segment_cases g _ _).imp id fun ⟨e, he⟩ => ⟨_, e, he⟩
          have hlen : ∀ indices : List Nat,
              (List.zipWith (segment g) indices indices.tail).length = indices.length - 1 := fun indices => by
            rw [List.length_zipWith, List.length_tail]
            omega
          refine ⟨?_, ?_, ?_, ?_, ?_, ?_, ?_⟩
          · unfold GraphPath.count
            rw [List.length_reverse]
            exact length_backtrack_le ..
          · intro i hi
            have hprev := searchLoop_keeps (P := PrevBelow g.nodeCount) (fun _ _ hs => hs)
              (fun cur hcur edge s => prevBelow_relax hcur edge s)
              (prevBelow_searchInit (show a.toNat < g.nodeCount by omega)) b.toNat (g.nodeCount + 1)
            exact backtrack_lt hprev _ _ (show b.toNat < g.nodeCount by omega) i (List.mem_reverse.mp hi)
          · rw [List.length_map, hlen]; rfl
          · rw [List.length_map, hlen]; rfl
          · exact searchLoop_keeps (P := fun s => ∀ v, IsInt32 (s.dist v)) (fun _ _ hs => hs)
              (fun cur _ edge s => isInt32_relax cur edge s) isInt32_searchInit _ _ _
          · intro r hr
            obtain ⟨p, hp, rfl⟩ := List.mem_map.mp hr
            rcases hsegment _ p hp with rfl | ⟨u, e, he, rfl⟩
            · exact .inl rfl
            · exact .inr ⟨u, e, he, rfl⟩
          · intro m hm
            obtain ⟨p, hp, rfl⟩ := List.mem_map.mp hm
            rcases hsegment _ p hp with rfl | ⟨u, e, he, rfl⟩
            · exact .inl rfl
            · exact .inr ⟨u, e, he, rfl⟩
        · cases h
      · cases h

/-! ## The text of a response -/

variable [CDouble D] {data : AppData D} {path : GraphPath}

/-- The names of the nodes of a path. -/
def pathNames (data : AppData D) (path : GraphPath) : List Str :=
  (path.indices.filterMap (nodeAt data)).map (·.nodeName.val)

def summaryText (path : GraphPath) : Str :=
  [itemSep] ++ fmtInt (countTransfers path) ++ [itemSep] ++ fmtInt path.totalMinutes ++ [itemSep]

/-- Everything in front of the steps. -/
def transferHead (data : AppData D) (path : GraphPath) : Str :=
  header pktTransferRes .ok ++ [nameSep].intercalate (pathNames data path) ++ summaryText path

/-- The whole answer for a path, without its line feed. -/
def transferText (data : AppData D) (path : GraphPath) : Str :=
  transferHead data path ++ [listSep].intercalate (stepTexts data path)

omit [CDouble D] in
theorem appendNames_eq {size : Nat} {names : List Str} {i : Nat} {response : Str} (hi : 0 < i)
    (h : response.length + (names.flatMap (nameSep :: ·)).length < size) :
    appendNames size names i response = response ++ names.flatMap (nameSep :: ·) := by
  induction names generalizing i response with
  | nil => simp [appendNames]
  | cons name rest ih =>
    simp only [List.flatMap_cons, List.length_append, List.length_cons] at h
    have hsep : strAppend response size [nameSep] = (response ++ [nameSep], true) :=
      strAppend_of_le (by simp only [List.length_singleton]; omega)
    have hname : strAppend (response ++ [nameSep]) size name = (response ++ [nameSep] ++ name, true) :=
      strAppend_of_le (by simp only [List.length_append, List.length_singleton]; omega)
    simp only [appendNames, hi, ↓reduceIte, hsep, hname]
    rw [ih (Nat.succ_pos i) (by simp only [List.length_append, List.length_singleton]; omega)]
    simp

omit [CDouble D] in
theorem appendNames_zero {size : Nat} {names : List Str} {response : Str}
    (h : response.length + ([nameSep].intercalate names).length < size) :
    appendNames size names 0 response = response ++ [nameSep].intercalate names := by
  cases names with
  | nil => simp [appendNames]
  | cons name rest =>
    rw [Framework.intercalate_cons_eq_flatMap] at h ⊢
    simp only [List.length_append] at h
    simp only [appendNames, gt_iff_lt, Nat.lt_irrefl, ↓reduceIte]
    rw [strAppend_of_le (by omega), appendNames_eq (Nat.succ_pos 0)
      (by simp only [List.length_append]; omega), List.append_assoc]

omit [CDouble D] in
/-- A step and those behind it: the response is cut at the end of the buffer. -/
theorem appendSteps_cut {size : Nat} {step : Str} {rest : List Str} {i : Nat} {response : Str}
    (hr : response.length < size) (hs : ∀ s ∈ step :: rest, s ≠ []) :
    (match strAppendf response size step with
      | (response, true) => appendSteps size rest (i + 1) response
      | (response, false) => response) =
      (response ++ step ++ rest.flatMap (listSep :: ·)).take (size - 1) := by
  induction rest generalizing step i response with
  | nil =>
    have hpos : 0 < step.length := List.length_pos_iff.mpr (hs step (List.mem_cons_self ..))
    by_cases hfit : response.length + step.length < size
    · rw [strAppendf_of_lt hfit]
      simp only [appendSteps, List.flatMap_nil, List.append_nil]
      rw [List.take_of_length_le (by simp only [List.length_append]; omega)]
    · rw [strAppendf_of_ge hr (by omega)]
      simp only [List.flatMap_nil, List.append_nil]
      rw [List.take_append, List.take_of_length_le (by omega), snprintf]
      congr 2
      omega
  | cons next rest ih =>
    have hpos : 0 < step.length := List.length_pos_iff.mpr (hs step (List.mem_cons_self ..))
    have hnext : ∀ s ∈ next :: rest, s ≠ [] := fun s hm => hs s (List.mem_cons_of_mem _ hm)
    by_cases hfit : response.length + step.length < size
    · rw [strAppendf_of_lt hfit]
      simp only [appendSteps, Nat.succ_pos, gt_iff_lt, ↓reduceIte]
      by_cases hsep : response.length + step.length + 1 < size
      · rw [strAppend_of_le (by simp only [List.length_append, List.length_singleton]; omega)]
        dsimp only
        refine (ih (by simp only [List.length_append, List.length_singleton]; omega) hnext).trans ?_
        simp
      · have hfull : (response ++ step).length = size - 1 := by
          simp only [List.length_append]; omega
        have hskip : strAppend (response ++ step) size [listSep] = (response ++ step, false) := by
          simp only [strAppend]
          rw [if_pos (by simp only [hfull, List.length_singleton]; omega)]
        rw [hskip]
        dsimp only
        refine (ih (by omega) hnext).trans ?_
        rw [List.append_assoc (response ++ step), List.take_left' hfull, List.take_left' hfull]
    · rw [strAppendf_of_ge hr (by omega)]
      simp only
      rw [List.append_assoc, List.take_append, List.take_of_length_le (by omega),
        List.take_append_of_le_length (by omega), snprintf]
      congr 2
      omega

omit [CDouble D] in
theorem appendSteps_eq {size : Nat} {steps : List Str} {response : Str} (hr : response.length < size)
    (hs : ∀ s ∈ steps, s ≠ []) :
    appendSteps size steps 0 response = (response ++ [listSep].intercalate steps).take (size - 1) := by
  cases steps with
  | nil =>
    simp only [appendSteps, List.intercalate_nil, List.append_nil]
    rw [List.take_of_length_le (by omega)]
  | cons step rest =>
    rw [Framework.intercalate_cons_eq_flatMap, ← List.append_assoc]
    simp only [appendSteps, gt_iff_lt, Nat.lt_irrefl, ↓reduceIte]
    exact appendSteps_cut hr hs

/-! ## The response for a path -/

omit [CDouble D] in
theorem countTransfers_bounds (path : GraphPath) :
    0 ≤ countTransfers path ∧ countTransfers path ≤ path.segmentRoutes.length := by
  have hfold : ∀ (routes : List (CStr maxRouteLen)) (st : TransferCount),
      st.count ≤ (routes.foldl countSegment st).count ∧
        (routes.foldl countSegment st).count ≤ st.count + routes.length := by
    intro routes
    induction routes with
    | nil => simp
    | cons route routes ih =>
      intro st
      have hone : st.count ≤ (countSegment st route).count ∧ (countSegment st route).count ≤ st.count + 1 := by
        simp only [countSegment]
        split
        · simp only; omega
        · simp only; split <;> omega
      have := ih (countSegment st route)
      simp only [List.foldl_cons, List.length_cons, Nat.cast_add, Nat.cast_one]
      omega
  simp only [countTransfers]
  split
  · omega
  · simpa using hfold path.segmentRoutes ⟨0, false, []⟩

omit [CDouble D] in
theorem summaryText_spec {g : TransferGraph D} (h : PathRecord g path) :
    Plain (summaryText path) ∧ (summaryText path).length ≤ 25 := by
  have hc := countTransfers_bounds path
  have hl := h.routes_length
  have hm : path.count ≤ 256 := h.count
  have l1 := length_fmtInt (n := countTransfers path) ⟨by omega, by omega⟩
  have l2 := length_fmtInt h.total
  refine ⟨?_, ?_⟩
  · simp only [summaryText, plain_append, plain_cons, plain_nil]
    exact ⟨⟨⟨⟨⟨by decide, trivial⟩, plain_fmtInt _⟩, by decide, trivial⟩, plain_fmtInt _⟩, by decide, trivial⟩
  · simp only [summaryText, List.length_append, List.length_singleton]; omega

omit [CDouble D] in
theorem length_pathNames_le (data : AppData D) {g : TransferGraph D} (h : PathRecord g path) :
    ([nameSep].intercalate (pathNames data path)).length ≤ 25600 := by
  have hmax : ∀ name ∈ pathNames data path, name.length ≤ 99 := by
    intro name hn
    obtain ⟨node, -, rfl⟩ := List.mem_map.mp hn
    exact node.nodeName.2
  have hlen : (pathNames data path).length ≤ 256 := by
    simp only [pathNames, List.length_map]
    exact Nat.le_trans (List.length_filterMap_le ..) h.count
  have hflat : ∀ names : List Str, (∀ name ∈ names, name.length ≤ 99) →
      (names.flatMap (nameSep :: ·)).length ≤ 100 * names.length := by
    intro names
    induction names with
    | nil => simp
    | cons name names ih =>
      intro hm
      rw [List.forall_mem_cons] at hm
      have := ih hm.2
      simp only [List.flatMap_cons, List.length_append, List.length_cons]
      omega
  revert hmax hlen
  generalize pathNames data path = names
  intro hmax hlen
  cases names with
  | nil => simp
  | cons name names =>
    rw [List.forall_mem_cons] at hmax
    have := hflat names hmax.2
    rw [Framework.intercalate_cons_eq_flatMap]
    simp only [List.length_append, List.length_cons] at hlen ⊢
    omega

/-- A step is made of two nodes of the path and one of its routes. -/
theorem mem_stepTexts {step : Str} (h : step ∈ stepTexts data path) :
    ∃ u ∈ path.indices.filterMap (nodeAt data), ∃ v ∈ path.indices.filterMap (nodeAt data),
      ∃ r ∈ path.segmentRoutes, ∃ minutes,
        step = [stepSep].intercalate (stepFields data u v r minutes) := by
  obtain ⟨i, hi, rfl⟩ := List.mem_iff_getElem.mp h
  simp only [stepTexts, List.getElem_zipWith, List.getElem_zip]
  exact ⟨_, List.getElem_mem _, _, List.mem_of_mem_tail (List.getElem_mem _), _, List.getElem_mem _, _, rfl⟩

theorem stepTexts_ne_nil : ∀ s ∈ stepTexts data path, s ≠ [] := by
  intro s hs
  obtain ⟨u, -, v, -, r, -, minutes, rfl⟩ := mem_stepTexts hs
  rw [stepFields, Framework.intercalate_cons_eq_flatMap]
  simp

/-- The whole text when it fits with its line feed, else what fits of it. -/
theorem transferResponse_eq {g : TransferGraph D} (h : PathRecord g path) :
    transferResponse data path maxPacketSize =
      if (transferText data path).length ≤ maxPacketSize - 2 then transferText data path ++ [packetTerm]
      else (transferText data path).take (maxPacketSize - 1) := by
  have hsize : maxPacketSize = 32768 := rfl
  have hheader := (header_spec (by decide : pktTransferRes ∈ packetTypes) .ok).2
  have hnames := length_pathNames_le data h
  have hsummary := (summaryText_spec h).2
  have hn : appendNames maxPacketSize (pathNames data path) 0 (header pktTransferRes .ok) =
      header pktTransferRes .ok ++ [nameSep].intercalate (pathNames data path) :=
    appendNames_zero (by omega)
  have hhead : (strAppendf (header pktTransferRes .ok ++ [nameSep].intercalate (pathNames data path))
      maxPacketSize (summaryText path)).1 = transferHead data path := by
    rw [strAppendf_of_lt (by simp only [List.length_append]; omega)]
    rfl
  have hlen : (transferHead data path).length < maxPacketSize := by
    simp only [transferHead, List.length_append]; omega
  have hdef : transferResponse data path maxPacketSize =
      (strAppend (appendSteps maxPacketSize (stepTexts data path) 0
        (strAppendf (appendNames maxPacketSize (pathNames data path) 0
          (snprintf maxPacketSize (header pktTransferRes .ok))) maxPacketSize (summaryText path)).1)
        maxPacketSize [packetTerm]).1 := rfl
  rw [hdef, snprintf_of_le (by omega), hn, hhead, appendSteps_eq hlen stepTexts_ne_nil, ← transferText]
  simp only [strAppend, List.length_take, List.length_singleton]
  by_cases hfit : (transferText data path).length ≤ maxPacketSize - 2
  · rw [if_pos hfit, if_neg (by omega), List.take_of_length_le (by omega)]
  · rw [if_neg hfit]
    split
    · rfl
    · omega

/-! ## Texts -/

section

variable {P : Str → Prop}

theorem TextProperty.distanceText (hP : TextProperty P) (data : AppData D) (u v : GraphNode D) (routeNo : Str) :
    P (distanceText data u v routeNo) := by
  have hfmt : ∀ km : D, P (snprintf 32 (CDouble.fmt1 km)) := by
    refine fun km => hP.ascii _ (List.all_eq_true.mpr fun b hb => ?_)
    rcases CDouble.fmt1_plain km b (List.mem_of_mem_take hb) with h | ⟨hlo, hhi⟩ | rfl | rfl
    · exact ascii_of_isdigit h
    · have hsmall : b < 128 := UInt8.lt_of_le_of_lt hhi (by decide : (122 : UInt8) < 128)
      have hline : b ≠ packetTerm := by
        rintro rfl
        exact absurd hlo (by decide)
      exact Bool.and_eq_true_iff.mpr ⟨decide_eq_true hsmall, bne_iff_ne.mpr hline⟩
    · decide
    · decide
  unfold Transit.distanceText
  split
  · dsimp only
    split
    · exact hfmt _
    · exact hP.nil
  · exact hP.nil

theorem GraphTexts.stepFields (hP : TextProperty P) {u v : GraphNode D} {r : Str}
    (hu : P u.nodeId ∧ P u.nodeName ∧ P u.nodeType) (hv : P v.nodeId ∧ P v.nodeName ∧ P v.nodeType) (hr : P r)
    (minutes : Int) : ∀ f ∈ stepFields data u v r minutes, P f := by
  have hmove : P (moveRoute r) := by
    unfold moveRoute
    split
    · exact hr
    · exact hP.ascii _ (by decide)
  simp only [Transit.stepFields, List.forall_mem_cons]
  exact ⟨hu.1, hu.2.1, hu.2.2, hmove, hv.1, hv.2.1, hv.2.2, hP.fmtInt _, hP.distanceText .., List.forall_mem_nil _⟩

/-- What holds of the texts of the graph holds of the answer for a path. -/
theorem GraphTexts.transferText (hP : TextProperty P) (hgraph : GraphTexts P data.graph)
    (h : PathShape data.graph path) : P (transferText data path) := by
  have hsep : P [itemSep] := hP.ascii _ (by decide)
  have hnode : ∀ node ∈ path.indices.filterMap (nodeAt data), P node.nodeId ∧ P node.nodeName ∧ P node.nodeType := by
    intro node hn
    obtain ⟨i, -, hi⟩ := List.mem_filterMap.mp hn
    exact hgraph.nodes node (List.mem_of_getElem? hi)
  have hroute : ∀ r ∈ path.segmentRoutes, P r := by
    intro r hr
    rcases h.routes r hr with h0 | ⟨u, e, he, rfl⟩
    · rw [h0]
      exact hP.nil
    · exact hgraph.edges u e he
  have hnames : ∀ name ∈ pathNames data path, P name :=
    List.forall_mem_map.mpr fun node hn => (hnode node hn).2.1
  have hsummary : P (summaryText path) :=
    hP.append (hP.append (hP.append (hP.append hsep (hP.fmtInt _)) hsep) (hP.fmtInt _)) hsep
  have hsteps : ∀ step ∈ stepTexts data path, P step := by
    intro step hs
    obtain ⟨u, hu, v, hv, r, hr, minutes, rfl⟩ := mem_stepTexts hs
    exact hP.intercalate (hP.ascii _ (by decide))
      (GraphTexts.stepFields hP (hnode u hu) (hnode v hv) (hroute r hr) minutes)
  have hhead := hP.append (hP.header (by decide : pktTransferRes ∈ packetTypes) .ok)
    (hP.intercalate (hP.ascii [nameSep] (by decide)) hnames)
  exact hP.append (hP.append hhead hsummary) (hP.intercalate (hP.ascii [listSep] (by decide)) hsteps)

end

theorem plain_transferText (hdata : LoadedStore data) (h : PathShape data.graph path) :
    Plain (transferText data path) :=
  GraphTexts.transferText textProperty_plain ⟨hdata.graph.nodes, hdata.graph.edges⟩ h

end Transit
