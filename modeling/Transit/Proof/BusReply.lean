import Transit.Proof.ListReplies

/-!
# What `handle_bus_search` answers

`busListing` are the routes a search lists, found without looking at the
response buffer; `packRoutes` packs their texts, a stop name being left out
when it does not fit. `handleBusSearch_listing` shows that the handler does
just this, so that the length of the response is that of `busUsed`, which
computes with lengths only. The line feed is lost when that length is
`MAX_PACKET_SIZE - 1`.
-/

namespace Transit

open Framework

variable {D : Type} {data : AppData D}

/-- The routes not seen before, by `mark_bus_route_seen`. -/
def newRoutes (data : AppData D) : List RouteNode → Str → List RouteNode
  | [], _ => []
  | route :: rest, keys =>
    match markBusRouteSeen data route keys stopRoutesTextSize with
    | (keys, true) => route :: newRoutes data rest keys
    | (keys, false) => newRoutes data rest keys

/-- The routes a search lists. -/
def busListing (data : AppData D) (keyword : Str) : List RouteNode :=
  (newRoutes data ([1, 2, 3].flatMap fun rank => data.routes.filter (routeMatchRank · keyword = rank))
    []).take 10

/-- A route up to its stops, behind a separator unless it is the first. -/
def busItemHead (data : AppData D) (route : RouteNode) (itemIndex : Nat) : Str :=
  (if itemIndex > 0 then [listSep] else []) ++
    (route.routeNo.val ++ [itemSep] ++ (routeDisplayLabel data route maxRouteLen).getD [] ++ [itemSep] ++
      findNodeNameById data route.startStopId ++ [itemSep] ++
      findNodeNameById data route.endStopId ++ [itemSep])

/-- The texts put behind it, each when it fits: the names of the stops and the
commas between them. -/
def busStopPieces (data : AppData D) : List RouteStopNode → List Str
  | [] => [[45]]
  | stop :: rest =>
    findNodeNameById data stop.stopId ::
      rest.flatMap fun stop => [[44], findNodeNameById data stop.stopId]

/-- No room for another route. -/
def BusFull (used : Nat) : Prop := used + 700 ≥ maxPacketSize

instance (used : Nat) : Decidable (BusFull used) := inferInstanceAs (Decidable (_ ≥ _))

/-- Packing routes into the response, the first of them having this index. -/
def packRoutes (data : AppData D) : List RouteNode → Str × Nat → Str × Nat
  | [], st => st
  | route :: rest, (response, i) =>
    if BusFull response.length then (response, i)
    else
      packRoutes data rest ((busStopPieces data route.stops).foldl (put (maxPacketSize - 1))
        (response ++ busItemHead data route i), i + 1)

/-- The room that packing these routes uses. -/
def busUsed (data : AppData D) : List RouteNode → Nat → Nat → Nat
  | [], used, _ => used
  | route :: rest, used, i =>
    if BusFull used then used
    else
      busUsed data rest (pack (maxPacketSize - 1) (used + (busItemHead data route i).length)
        ((busStopPieces data route.stops).map List.length)) (i + 1)

theorem mem_busListing {keyword : Str} {route : RouteNode} (h : route ∈ busListing data keyword) :
    route ∈ data.routes := by
  have hnew : ∀ (routes : List RouteNode) keys, ∀ r ∈ newRoutes data routes keys, r ∈ routes := by
    intro routes
    induction routes with
    | nil => intro keys r hr; cases hr
    | cons route rest ih =>
      intro keys r hr
      simp only [newRoutes] at hr
      split at hr
      · rcases List.mem_cons.mp hr with rfl | hr
        · exact List.mem_cons_self ..
        · exact List.mem_cons_of_mem _ (ih _ r hr)
      · exact List.mem_cons_of_mem _ (ih _ r hr)
  obtain ⟨rank, -, hr⟩ := List.mem_flatMap.mp (hnew _ _ route (List.mem_of_mem_take h))
  exact (List.mem_filter.mp hr).1

theorem busListing_blank {keyword : Str} (h : strIsBlank keyword = true) : busListing data keyword = [] := by
  have hrank : ∀ route, routeMatchRank route keyword = 0 := fun route => by
    simp [routeMatchRank, h]
  simp [busListing, hrank, newRoutes]

/-! ## One route -/

theorem length_busItemHead_le (data : AppData D) (route : RouteNode) (i : Nat) :
    (busItemHead data route i).length ≤ 457 := by
  have h1 : route.routeNo.val.length ≤ 127 := route.routeNo.2
  have h2 : ((routeDisplayLabel data route maxRouteLen).getD []).length ≤ 127 := by
    cases hl : routeDisplayLabel data route maxRouteLen with
    | none => simp
    | some label => exact length_routeDisplayLabel hl
  have h3 := length_findNodeNameById data route.startStopId
  have h4 := length_findNodeNameById data route.endStopId
  simp only [busItemHead]
  split <;> simp only [List.length_append, List.length_singleton, List.length_nil] <;> omega

theorem appendStopNames_fst {size : Nat} (hs : 0 < size) (stops : List RouteStopNode) {response : Str}
    {count : Nat} (hc : 0 < count) :
    appendStopNames data size stops response count =
      ((stops.flatMap fun stop => [[44], findNodeNameById data stop.stopId]).foldl (put (size - 1))
        response, count + stops.length) := by
  induction stops generalizing response count with
  | nil => rfl
  | cons stop rest ih =>
    simp only [appendStopNames, hc, ↓reduceIte, strAppend_eq_put hs]
    rw [ih (Nat.succ_pos count)]
    simp only [List.flatMap_cons, List.foldl_append, List.foldl_cons, List.foldl_nil, List.length_cons,
      Prod.mk.injEq, true_and]
    omega

/-- `append_bus_route_item` for a route with a label. -/
theorem appendBusRouteItem_eq {route : RouteNode} {label : Str}
    (hl : routeDisplayLabel data route maxRouteLen = some label) (response : Str) (i : Nat) :
    appendBusRouteItem data route response maxPacketSize i =
      if BusFull response.length then (response, false)
      else ((busStopPieces data route.stops).foldl (put (maxPacketSize - 1))
        (response ++ busItemHead data route i), true) := by
  simp only [appendBusRouteItem, hl]
  by_cases hfull : BusFull response.length
  · rw [if_pos hfull]
    exact if_pos hfull
  · have hroom : ¬ response.length + 700 ≥ maxPacketSize := hfull
    have hhead := length_busItemHead_le data route i
    have hsize : maxPacketSize = 32768 := rfl
    have hsep : (if i > 0 then (strAppend response maxPacketSize [listSep]).1 else response) =
        response ++ if i > 0 then [listSep] else [] := by
      split
      · rw [strAppend_of_le (by simp only [List.length_singleton]; omega)]
      · simp
    have hitem : strAppendf (response ++ if i > 0 then [listSep] else []) maxPacketSize
        (route.routeNo.val ++ [itemSep] ++ label ++ [itemSep] ++
          findNodeNameById data route.startStopId ++ [itemSep] ++
          findNodeNameById data route.endStopId ++ [itemSep]) =
        (response ++ busItemHead data route i, true) := by
      simp only [busItemHead, hl, Option.getD_some] at hhead ⊢
      rw [strAppendf_of_lt (by simp only [List.length_append] at hhead ⊢; omega), List.append_assoc]
    rw [if_neg hroom, if_neg hfull, hsep, hitem]
    cases route.stops with
    | nil => simp [appendStopNames, busStopPieces, strAppend_eq_put]
    | cons stop rest =>
      simp only [appendStopNames, gt_iff_lt, Nat.lt_irrefl, ↓reduceIte, busStopPieces, List.foldl_cons,
        strAppend_eq_put (by decide : 0 < maxPacketSize)]
      rw [appendStopNames_fst (by decide) rest (Nat.succ_pos 0)]
      simp

theorem markBusRouteSeen_label {route : RouteNode} {keys keys' : Str} {n : Nat}
    (h : markBusRouteSeen data route keys n = (keys', true)) :
    ∃ label, routeDisplayLabel data route maxRouteLen = some label := by
  simp only [markBusRouteSeen] at h
  split at h
  · simp at h
  · exact ⟨_, by assumption⟩

/-! ## All routes -/

theorem packRoutes_append (a b : List RouteNode) (st : Str × Nat) :
    packRoutes data (a ++ b) st = packRoutes data b (packRoutes data a st) := by
  induction a generalizing st with
  | nil => rfl
  | cons route a ih =>
    simp only [List.cons_append, packRoutes]
    split
    · rename_i hfull
      cases b with
      | nil => rfl
      | cons next b => simp only [packRoutes, hfull, ↓reduceIte]
    · exact ih _

theorem packRoutes_full {st : Str × Nat} (h : BusFull st.1.length) (routes : List RouteNode) :
    packRoutes data routes st = st := by
  cases routes with
  | nil => rfl
  | cons route rest => simp only [packRoutes, h, ↓reduceIte]

/-- The number of routes packed. -/
theorem packRoutes_snd (data : AppData D) (routes : List RouteNode) (st : Str × Nat) :
    st.2 ≤ (packRoutes data routes st).2 ∧ (packRoutes data routes st).2 ≤ st.2 + routes.length := by
  induction routes generalizing st with
  | nil => exact ⟨Nat.le_refl _, Nat.le_refl _⟩
  | cons route rest ih =>
    simp only [packRoutes, List.length_cons]
    split
    · simp only; omega
    · have := ih ((busStopPieces data route.stops).foldl (put (maxPacketSize - 1))
        (st.1 ++ busItemHead data route st.2), st.2 + 1)
      simp only at this
      omega

/-- Packing stops early only when the response is full. -/
theorem packRoutes_count (data : AppData D) (routes : List RouteNode) (st : Str × Nat) :
    BusFull (packRoutes data routes st).1.length ∨
      (packRoutes data routes st).2 = st.2 + routes.length := by
  induction routes generalizing st with
  | nil => exact .inr rfl
  | cons route rest ih =>
    simp only [packRoutes]
    split
    · exact .inl ‹_›
    · refine (ih _).imp id fun h => ?_
      rw [h, List.length_cons]
      omega

/-- The keys after a list of routes. -/
def keysAfter (data : AppData D) (routes : List RouteNode) (keys : Str) : Str :=
  routes.foldl (fun keys route => (markBusRouteSeen data route keys stopRoutesTextSize).1) keys

theorem newRoutes_append (a b : List RouteNode) (keys : Str) :
    newRoutes data (a ++ b) keys = newRoutes data a keys ++ newRoutes data b (keysAfter data a keys) := by
  induction a generalizing keys with
  | nil => rfl
  | cons route a ih =>
    simp only [List.cons_append, newRoutes, keysAfter, List.foldl_cons]
    cases hm : markBusRouteSeen data route keys stopRoutesTextSize with
    | mk keys' new => cases new <;> simp only [ih, keysAfter, List.cons_append]

/-- The inner loop packs the new routes of its rank, up to ten in all. Unless
the response is full or has ten routes, it has marked all routes. -/
theorem appendBusRoutes_eq (data : AppData D) (keyword : Str) (rank : Nat) (routes : List RouteNode) {st : BusListing}
    (hst : st.matchCount ≤ 10) :
    ((appendBusRoutes data keyword maxPacketSize rank routes st).response,
      (appendBusRoutes data keyword maxPacketSize rank routes st).matchCount) =
        packRoutes data ((newRoutes data (routes.filter (routeMatchRank · keyword = rank)) st.routeKeys).take
          (10 - st.matchCount)) (st.response, st.matchCount) ∧
    (BusFull (appendBusRoutes data keyword maxPacketSize rank routes st).response.length ∨
      10 ≤ (appendBusRoutes data keyword maxPacketSize rank routes st).matchCount ∨
      (appendBusRoutes data keyword maxPacketSize rank routes st).routeKeys =
        keysAfter data (routes.filter (routeMatchRank · keyword = rank)) st.routeKeys) := by
  induction routes generalizing st with
  | nil => exact ⟨by simp [appendBusRoutes, newRoutes, packRoutes], .inr (.inr rfl)⟩
  | cons route rest ih =>
    simp only [appendBusRoutes]
    by_cases hrank : routeMatchRank route keyword = rank
    · rw [List.filter_cons_of_pos (by simpa using hrank)]
      simp only [hrank, ↓reduceIte, newRoutes]
      cases hm : markBusRouteSeen data route st.routeKeys stopRoutesTextSize with
      | mk keys new =>
        have hkeys : keysAfter data (route :: rest.filter (routeMatchRank · keyword = rank)) st.routeKeys =
            keysAfter data (rest.filter (routeMatchRank · keyword = rank)) keys := by
          simp only [keysAfter, List.foldl_cons, hm]
        rw [hkeys]
        cases new with
        | false => exact @ih ⟨keys, st.response, st.matchCount⟩ hst
        | true =>
          by_cases hten : st.matchCount ≥ 10
          · simp only [hten, ↓reduceIte]
            rw [Nat.sub_eq_zero_of_le hten]
            exact ⟨rfl, .inr (.inl trivial)⟩
          · obtain ⟨label, hl⟩ := markBusRouteSeen_label hm
            obtain ⟨n, hn⟩ : ∃ n, 10 - st.matchCount = n + 1 := ⟨9 - st.matchCount, by omega⟩
            simp only [hten, ↓reduceIte, appendBusRouteItem_eq hl, hn, List.take_succ_cons, packRoutes]
            by_cases hfull : BusFull st.response.length
            · simp only [hfull, ↓reduceIte]
              exact ⟨trivial, .inl trivial⟩
            · simp only [hfull, ↓reduceIte]
              have hnext := @ih ⟨keys, (busStopPieces data route.stops).foldl (put (maxPacketSize - 1))
                (st.response ++ busItemHead data route st.matchCount), st.matchCount + 1⟩ (by simp only; omega)
              rwa [show 10 - (st.matchCount + 1) = n by omega] at hnext
    · rw [List.filter_cons_of_neg (by simpa using hrank)]
      simp only [hrank, ↓reduceIte]
      exact ih hst

/-- What the ranks list together. -/
def rankedRoutes (data : AppData D) (keyword : Str) (ranks : List Nat) : List RouteNode :=
  ranks.flatMap fun rank => data.routes.filter (routeMatchRank · keyword = rank)

theorem appendBusRank_count_le (data : AppData D) (keyword : Str) {st : BusListing} (hst : st.matchCount ≤ 10)
    (rank : Nat) :
    (appendBusRank data keyword maxPacketSize st rank).matchCount ≤ 10 := by
  simp only [appendBusRank]
  split
  · have heq := congrArg Prod.snd (appendBusRoutes_eq data keyword rank data.routes hst).1
    simp only at heq
    rw [heq]
    refine Nat.le_trans (packRoutes_snd data _ _).2 ?_
    simp only [List.length_take]
    omega
  · exact hst

/-- All ranks together pack their new routes, up to ten in all. -/
theorem foldl_appendBusRank (data : AppData D) (keyword : Str) (ranks : List Nat) {st : BusListing}
    (hst : st.matchCount ≤ 10) :
    ((ranks.foldl (appendBusRank data keyword maxPacketSize) st).response,
      (ranks.foldl (appendBusRank data keyword maxPacketSize) st).matchCount) =
        packRoutes data ((newRoutes data (rankedRoutes data keyword ranks) st.routeKeys).take
          (10 - st.matchCount)) (st.response, st.matchCount) := by
  induction ranks generalizing st with
  | nil => simp [rankedRoutes, newRoutes, packRoutes]
  | cons rank ranks ih =>
    have hcount := appendBusRank_count_le data keyword hst rank
    rw [List.foldl_cons, ih hcount]
    simp only [rankedRoutes, List.flatMap_cons]
    rw [newRoutes_append, List.take_append, packRoutes_append]
    by_cases hten : st.matchCount < 10
    · simp only [appendBusRank, hten, ↓reduceIte] at hcount ⊢
      obtain ⟨heq, hstop⟩ := appendBusRoutes_eq data keyword rank data.routes hst
      rw [← heq]
      revert hstop hcount heq
      generalize appendBusRoutes data keyword maxPacketSize rank data.routes st = out
      intro hcount heq hstop
      by_cases hfull : BusFull out.response.length
      · rw [packRoutes_full hfull, packRoutes_full hfull]
      · have hadd := packRoutes_count data ((newRoutes data (data.routes.filter
          (routeMatchRank · keyword = rank)) st.routeKeys).take (10 - st.matchCount))
          (st.response, st.matchCount)
        rw [← heq] at hadd
        have hadd := hadd.resolve_left hfull
        simp only [List.length_take] at hadd
        by_cases hmany : 10 ≤ out.matchCount
        · rw [Nat.sub_eq_zero_of_le hmany, Nat.sub_eq_zero_of_le (by omega :
            10 - st.matchCount ≤ (newRoutes data (data.routes.filter
              (routeMatchRank · keyword = rank)) st.routeKeys).length)]
          rfl
        · rw [(hstop.resolve_left hfull).resolve_left hmany]
          congr 2
          omega
    · simp only [appendBusRank, hten, ↓reduceIte]
      rw [Nat.sub_eq_zero_of_le (by omega : 10 ≤ st.matchCount)]
      simp [packRoutes]

/-- The response of a bus search is its listing, packed. -/
theorem handleBusSearch_listing {keyword : Str} (hb : strIsBlank keyword = false)
    (hd : strContainsProtocolDelim keyword = false) :
    handleBusSearch data keyword maxPacketSize =
      if busListing data keyword = [] then notFoundReply maxPacketSize pktBusSearchRes
      else ⟨.ok, (strAppend (packRoutes data (busListing data keyword)
        (header pktBusSearchRes .ok, 0)).1 maxPacketSize [packetTerm]).1⟩ := by
  have hrun := foldl_appendBusRank data keyword [1, 2, 3]
    (by decide : BusListing.matchCount ⟨[], header pktBusSearchRes .ok, 0⟩ ≤ 10)
  have hheader : snprintf maxPacketSize (header pktBusSearchRes .ok) = header pktBusSearchRes .ok :=
    snprintf_of_le (by decide)
  have hlist : (newRoutes data (rankedRoutes data keyword [1, 2, 3]) []).take 10 = busListing data keyword := rfl
  simp only [Nat.sub_zero, hlist] at hrun
  have hresponse := congrArg Prod.fst hrun
  have hcount := congrArg Prod.snd hrun
  simp only at hresponse hcount
  simp only [handleBusSearch, hb, hd, Bool.or_self, Bool.false_eq_true, ↓reduceIte, hheader]
  rw [hresponse, hcount]
  cases hl : busListing data keyword with
  | nil => simp [packRoutes]
  | cons route rest =>
    have hroom : ¬ BusFull (header pktBusSearchRes .ok).length := by decide
    have hne : (packRoutes data (route :: rest) (header pktBusSearchRes .ok, 0)).2 ≠ 0 := by
      have hle := (packRoutes_snd data rest ((busStopPieces data route.stops).foldl
        (put (maxPacketSize - 1)) (header pktBusSearchRes .ok ++ busItemHead data route 0), 0 + 1)).1
      simp only [packRoutes, hroom, ↓reduceIte]
      simp only at hle
      omega
    simp only [hne, ↓reduceIte, reduceCtorEq]

/-! ## Lengths -/

theorem length_packRoutes (data : AppData D) (routes : List RouteNode) (st : Str × Nat) :
    (packRoutes data routes st).1.length = busUsed data routes st.1.length st.2 := by
  induction routes generalizing st with
  | nil => rfl
  | cons route rest ih =>
    simp only [packRoutes, busUsed]
    split
    · rfl
    · rw [ih, length_foldl_put, List.length_append]

theorem length_packRoutes_le (data : AppData D) (routes : List RouteNode) (st : Str × Nat)
    (h : st.1.length ≤ maxPacketSize - 1) : (packRoutes data routes st).1.length ≤ maxPacketSize - 1 := by
  induction routes generalizing st with
  | nil => exact h
  | cons route rest ih =>
    simp only [packRoutes]
    split
    · exact h
    · rename_i hroom
      refine ih _ ?_
      rw [length_foldl_put]
      refine pack_le ?_ _
      have hhead := length_busItemHead_le data route st.2
      have hsize : maxPacketSize = 32768 := rfl
      simp only [BusFull] at hroom
      simp only [List.length_append]
      omega

/-! ## Texts -/

/-- The texts of a route that a bus search shows. -/
structure BusTexts (P : Str → Prop) (data : AppData D) (route : RouteNode) : Prop where
  no : P route.routeNo
  ends : P route.startStopId ∧ P route.endStopId
  stops : ∀ stop ∈ route.stops, P stop.stopId
  label : ∀ label, routeDisplayLabel data route maxRouteLen = some label → P label

section

variable {P : Str → Prop} {route : RouteNode}

theorem BusTexts.head (hP : TextProperty P) (hnodes : NodeTexts P data) (h : BusTexts P data route) (i : Nat) :
    P (busItemHead data route i) := by
  have hsep : P [itemSep] := hP.ascii _ (by decide)
  have hlabel : P ((routeDisplayLabel data route maxRouteLen).getD []) := by
    cases hl : routeDisplayLabel data route maxRouteLen with
    | none => exact hP.nil
    | some label => exact h.label label hl
  have hfirst : P (if i > 0 then [listSep] else []) := by
    split
    · exact hP.ascii _ (by decide)
    · exact hP.nil
  have hstart := hnodes.findNodeNameById h.ends.1
  have hend := hnodes.findNodeNameById h.ends.2
  have hno := hP.append (hP.append (hP.append h.no hsep) hlabel) hsep
  exact hP.append hfirst (hP.append (hP.append (hP.append (hP.append hno hstart) hsep) hend) hsep)

theorem BusTexts.pieces (hP : TextProperty P) (hnodes : NodeTexts P data) (h : BusTexts P data route) :
    ∀ p ∈ busStopPieces data route.stops, P p := by
  have hnames : ∀ stop ∈ route.stops, P (findNodeNameById data stop.stopId) := fun stop hstop =>
    hnodes.findNodeNameById (h.stops stop hstop)
  cases hstops : route.stops with
  | nil => exact List.forall_mem_singleton.mpr (hP.ascii _ (by decide))
  | cons stop rest =>
    rw [hstops, List.forall_mem_cons] at hnames
    rw [busStopPieces, List.forall_mem_cons, List.forall_mem_flatMap]
    refine ⟨hnames.1, fun stop hstop => ?_⟩
    rw [List.forall_mem_cons, List.forall_mem_singleton]
    exact ⟨hP.ascii _ (by decide), hnames.2 stop hstop⟩

theorem packRoutes_texts (hP : TextProperty P) (hnodes : NodeTexts P data) {routes : List RouteNode}
    (hroutes : ∀ route ∈ routes, BusTexts P data route) {response : Str} (hresponse : P response) (i : Nat) :
    P (packRoutes data routes (response, i)).1 := by
  induction routes generalizing response i with
  | nil => exact hresponse
  | cons route rest ih =>
    rw [List.forall_mem_cons] at hroutes
    rw [packRoutes]
    split
    · exact hresponse
    · refine ih hroutes.2 ?_ _
      exact hP.foldl_put (hP.append hresponse (hroutes.1.head hP hnodes i)) (hroutes.1.pieces hP hnodes)

end

theorem plain_packRoutes (h : PlainData data) {routes : List RouteNode}
    (hr : ∀ r ∈ routes, r ∈ data.routes) {response : Str} (hresponse : Plain response) (i : Nat) :
    Plain (packRoutes data routes (response, i)).1 := by
  refine packRoutes_texts textProperty_plain h.nodeTexts (fun route hroute => ?_) hresponse i
  obtain ⟨hno, -, hstart, hend, hstops⟩ := h.routes route (hr route hroute)
  exact ⟨hno, ⟨hstart, hend⟩, hstops, fun label hl => plain_routeDisplayLabel h (hr route hroute) hl⟩

end Transit
