import Transit.Proof.Framing
import Transit.Proof.SearchViews

/-!
# What the client shows of a bus search

An item of a bus search names all stops of a route. The client copies it into
2048 bytes before it cuts it into fields.

* `shownRoutes_iff`: it shows all of every item exactly when each fits the copy.
* `searchViews_iff`: the same for both searches, from the request on.
-/

namespace Transit

open Framework

variable {D : Type} {data : AppData D}

/-- The names that stand for the stops of a route. -/
def busNames (data : AppData D) (route : RouteNode) : List Str :=
  if route.stops = [] then [[45]] else route.stops.map fun rs => findNodeNameById data rs.stopId

/-- The fields before the stops. -/
def busFields (data : AppData D) (route : RouteNode) : List Str :=
  [route.routeNo, (routeDisplayLabel data route maxRouteLen).getD [], findNodeNameById data route.startStopId,
    findNodeNameById data route.endStopId]

/-- A route item: its fields, each with a `:`, and the names of its stops. -/
def busText (data : AppData D) (route : RouteNode) (names : Str) : Str :=
  (busFields data route).flatMap (· ++ [itemSep]) ++ names

/-- What there is to show of a route. -/
def busView (data : AppData D) (route : RouteNode) : BusItem where
  routeId := route.routeNo
  routeName := (routeDisplayLabel data route maxRouteLen).getD []
  start := findNodeNameById data route.startStopId
  endName := findNodeNameById data route.endStopId
  stops := busNames data route

/-- The routes that are listed behind `i` others, when all stop names of those before fit. -/
def routesFrom (data : AppData D) : Nat → Nat → List RouteNode → List RouteNode
  | _, _, [] => []
  | used, i, route :: rest =>
    if BusFull used then []
    else
      route :: routesFrom data (used + (if i > 0 then 1 else 0) +
        (busText data route ([44].intercalate (busNames data route))).length) (i + 1) rest

/-- The routes that a bus search lists. -/
def routesListed (data : AppData D) (keyword : Str) : List RouteNode :=
  routesFrom data (header pktBusSearchRes .ok).length 0 (busListing data keyword)

/-- What the viewer takes out of the items of a response. -/
def shownRoutes (response : Str) : List (Option BusItem) :=
  (busItems (responseHeader response).payload).map (·.2)

theorem busItemHead_eq (data : AppData D) (route : RouteNode) (i : Nat) :
    busItemHead data route i = (if i > 0 then [listSep] else []) ++ busText data route [] := by
  simp [busItemHead, busText, busFields]

theorem flatten_busStopPieces (data : AppData D) (route : RouteNode) :
    (busStopPieces data route.stops).flatten = [44].intercalate (busNames data route) := by
  unfold busNames
  cases route.stops with
  | nil => rfl
  | cons rs rest =>
    rw [if_neg (List.cons_ne_nil _ _), List.map_cons, intercalate_cons_eq_flatMap, busStopPieces,
      List.flatten_cons]
    congr 1
    induction rest with
    | nil => rfl
    | cons rs rest ih => simp [ih]

theorem length_busStopPieces (data : AppData D) (stops : List RouteStopNode) :
    ∀ p ∈ busStopPieces data stops, p.length ≤ 99 := by
  cases stops with
  | nil => simp [busStopPieces]
  | cons rs rest =>
    simp only [busStopPieces, List.forall_mem_cons, List.forall_mem_flatMap]
    refine ⟨length_findNodeNameById data _, fun rs _ => ⟨by simp, length_findNodeNameById data _, ?_⟩⟩
    exact List.forall_mem_nil _

theorem busText_append (data : AppData D) (route : RouteNode) (names : Str) :
    busText data route [] ++ names = busText data route names := by
  simp [busText]

theorem length_busText (data : AppData D) (route : RouteNode) (names : Str) :
    (busText data route names).length = (busText data route []).length + names.length := by
  rw [← busText_append, List.length_append]

/-- An item behind `i` others is its head, the stop names and the other items. -/
theorem itemsFrom_busText (data : AppData D) (route : RouteNode) (i : Nat) (names : Str) (texts : List Str) :
    itemsFrom i (busText data route names :: texts) =
      busItemHead data route i ++ names ++ itemsFrom (i + 1) texts := by
  rw [itemsFrom_cons, busItemHead_eq, ← busText_append data route names]
  simp only [List.append_assoc]

/-- What one route adds: all of its stop names, or some of them and there is no
room for another route. -/
theorem packRoute_split (data : AppData D) (route : RouteNode) (response : Str) (i : Nat) :
    ∃ tail,
      (busStopPieces data route.stops).foldl (put (maxPacketSize - 1)) (response ++ busItemHead data route i) =
        response ++ busItemHead data route i ++ tail ∧
      tail.Sublist ([44].intercalate (busNames data route)) ∧
      (tail = [44].intercalate (busNames data route) ∧
          (response ++ busItemHead data route i ++ tail).length = response.length + (if i > 0 then 1 else 0) +
            (busText data route ([44].intercalate (busNames data route))).length ∨
        BusFull (response ++ busItemHead data route i ++ tail).length ∧
          BusFull (response.length + (if i > 0 then 1 else 0) +
            (busText data route ([44].intercalate (busNames data route))).length)) := by
  obtain ⟨tail, htail, hsub, hskip⟩ := @foldl_put_split _ (maxPacketSize - 1) (busStopPieces data route.stops)
    (response ++ busItemHead data route i)
  rw [flatten_busStopPieces] at hsub hskip
  have hsepLen : (if i > 0 then [listSep] else []).length = if i > 0 then 1 else 0 := by split <;> rfl
  have hlen : (response ++ busItemHead data route i).length =
      response.length + (if i > 0 then 1 else 0) + (busText data route []).length := by
    rw [List.length_append, busItemHead_eq, List.length_append, hsepLen, Nat.add_assoc]
  refine ⟨tail, htail, hsub, ?_⟩
  rw [length_busText data route ([44].intercalate _), List.length_append, hlen]
  rcases hskip with htailEq | ⟨src, hsrc, hlt⟩
  · left
    rw [htailEq, Nat.add_assoc]
    exact ⟨rfl, rfl⟩
  · right
    have hsmall := length_busStopPieces data route.stops src hsrc
    have hsubLen := hsub.length_le
    have hsize : maxPacketSize = 32768 := rfl
    rw [List.length_append, hlen] at hlt
    unfold BusFull
    omega

/-- What is packed are the items of the routes listed, the stop names of the
last of them possibly cut short. -/
theorem packRoutes_split (data : AppData D) (routes : List RouteNode) (response : Str) (i : Nat) :
    ∃ items : List (RouteNode × Str),
      items.map (·.1) = routesFrom data response.length i routes ∧
      (packRoutes data routes (response, i)).1 =
        response ++ itemsFrom i (items.map fun item => busText data item.1 item.2) ∧
      (∀ item ∈ items, item.2.Sublist ([44].intercalate (busNames data item.1))) ∧
      ((response ++ itemsFrom i ((routesFrom data response.length i routes).map fun route =>
          busText data route ([44].intercalate (busNames data route)))).length ≤ maxPacketSize - 1 →
        ∀ item ∈ items, item.2 = [44].intercalate (busNames data item.1)) := by
  induction routes generalizing response i with
  | nil => exact ⟨[], rfl, by simp [packRoutes, itemsFrom_nil], List.forall_mem_nil _, fun _ => List.forall_mem_nil _⟩
  | cons route rest ih =>
    unfold packRoutes routesFrom
    by_cases hfull : BusFull response.length
    · simp only [if_pos hfull]
      exact ⟨[], rfl, by simp [itemsFrom_nil], List.forall_mem_nil _, fun _ => List.forall_mem_nil _⟩
    simp only [if_neg hfull]
    obtain ⟨tail, htail, hsub, ⟨htailEq, hused⟩ | ⟨hpacked, hlisted⟩⟩ := packRoute_split data route response i
    · obtain ⟨items, hfst, hpack, hsubs, hall⟩ := ih (response ++ busItemHead data route i ++ tail) (i + 1)
      rw [hused] at hfst hall
      refine ⟨(route, tail) :: items, ?_, ?_, ?_, fun htotal => ?_⟩
      · rw [List.map_cons, hfst]
      · rw [htail, hpack, List.map_cons, itemsFrom_busText]
        simp only [List.append_assoc]
      · rw [List.forall_mem_cons]
        exact ⟨hsub, hsubs⟩
      · rw [List.map_cons, itemsFrom_busText, ← List.append_assoc, ← List.append_assoc] at htotal
        rw [List.forall_mem_cons]
        refine ⟨htailEq, hall ?_⟩
        rw [htailEq]
        exact htotal
    · -- a name that does not fit leaves no room for another route
      have hnil : routesFrom data (response.length + (if i > 0 then 1 else 0) +
          (busText data route ([44].intercalate (busNames data route))).length) (i + 1) rest = [] := by
        cases rest with
        | nil => rfl
        | cons next rest => exact if_pos hlisted
      have hwhole := @foldl_put_of_le _ (maxPacketSize - 1) (response ++ busItemHead data route i)
        (busStopPieces data route.stops)
      rw [flatten_busStopPieces] at hwhole
      rw [htail, packRoutes_full hpacked, hnil]
      refine ⟨[(route, tail)], rfl, ?_, List.forall_mem_singleton.mpr hsub, fun htotal => ?_⟩
      · rw [List.map_singleton, itemsFrom_busText, itemsFrom_nil, List.append_nil, List.append_assoc]
      · rw [List.map_singleton, itemsFrom_busText, itemsFrom_nil, List.append_nil, ← List.append_assoc,
          List.length_append] at htotal
        rw [List.forall_mem_singleton]
        exact List.append_cancel_left (htail.symm.trans (hwhole htotal))

/-! ## One route -/

/-- No separator is in the fields of a route. -/
theorem busFields_free (h : CleanTexts data) {route : RouteNode} (hr : route ∈ data.routes) :
    ∀ f ∈ busFields data route, ∀ c ∈ separators, c ∉ f := by
  obtain ⟨hno, hstart, hend, -⟩ := h.routes route hr
  unfold busFields
  simp only [List.forall_mem_cons]
  refine ⟨hno.free, ?_, (hstart.of_find h).free, (hend.of_find h).free, List.forall_mem_nil _⟩
  cases hl : routeDisplayLabel data route maxRouteLen with
  | none => exact fun c _ => List.not_mem_nil
  | some label => exact (h.labels route hr label hl).free

theorem busNames_clean (h : CleanTexts data) {route : RouteNode} (hr : route ∈ data.routes) :
    ∀ name ∈ busNames data route, CleanText name := by
  obtain ⟨-, -, -, hstops⟩ := h.routes route hr
  unfold busNames
  split
  · exact List.forall_mem_singleton.mpr (CleanText.of_all (List.cons_ne_nil (45 : Byte) []) (by decide))
  · rw [List.forall_mem_map]
    exact fun rs hrs => (hstops rs hrs).of_find h

/-- The stop names joined have no separator but the comma. -/
theorem not_mem_busNames (h : CleanTexts data) {route : RouteNode} (hr : route ∈ data.routes) {c : Byte}
    (hc : c ∈ separators) (hcomma : c ≠ 44) : c ∉ [44].intercalate (busNames data route) :=
  not_mem_intercalate hcomma fun name hname => (busNames_clean h hr name hname).free c hc

theorem not_mem_busText (h : CleanTexts data) {route : RouteNode} (hr : route ∈ data.routes) {c : Byte}
    (hc : c ∈ separators) (hcolon : c ≠ itemSep) {names : Str} (hnames : c ∉ names) :
    c ∉ busText data route names := by
  unfold busText
  rw [List.mem_append, not_or]
  refine ⟨fun hm => ?_, hnames⟩
  obtain ⟨f, hf, hm⟩ := List.mem_flatMap.mp hm
  rcases List.mem_append.mp hm with hm | hm
  · exact busFields_free h hr f hf c hc hm
  · exact hcolon (List.mem_singleton.mp hm)

theorem busText_eq_intercalate (data : AppData D) (route : RouteNode) (names : Str) :
    busText data route names = [itemSep].intercalate (busFields data route ++ [names]) := by
  unfold busText busFields
  simp [List.intercalate]

theorem busText_ne_nil (data : AppData D) (route : RouteNode) (names : Str) : busText data route names ≠ [] := by
  unfold busText busFields
  simp

theorem length_busText_nil_le (data : AppData D) (route : RouteNode) : (busText data route []).length ≤ 457 := by
  have hhead := length_busItemHead_le data route 0
  rwa [busItemHead_eq, if_neg (Nat.lt_irrefl 0), List.nil_append] at hhead

/-- The viewer's copy of an item cuts its stop names only. -/
theorem busItem_busText (h : CleanTexts data) {route : RouteNode} (hr : route ∈ data.routes) {names : Str}
    (hnames : itemSep ∉ names) :
    busItem (busText data route names) =
      some ⟨route.routeNo, (routeDisplayLabel data route maxRouteLen).getD [],
        findNodeNameById data route.startStopId, findNodeNameById data route.endStopId,
        pieces 44 (names.take (2047 - (busText data route []).length))⟩ := by
  have hhead := length_busText_nil_le data route
  have hcopy : safeStrcpy 2048 (busText data route names) =
      [itemSep].intercalate (busFields data route ++ [names.take (2047 - (busText data route []).length)]) := by
    unfold safeStrcpy snprintf
    rw [← busText_eq_intercalate, ← busText_append data route names, List.take_append,
      List.take_of_length_le (show (busText data route []).length ≤ 2048 - 1 by omega), busText_append]
  have hfree : ∀ f ∈ busFields data route ++ [names.take (2047 - (busText data route []).length)], itemSep ∉ f := by
    intro f hf
    rcases List.mem_append.mp hf with hf | hf
    · exact busFields_free h hr f hf itemSep (by decide)
    · rw [List.mem_singleton.mp hf]
      exact fun hm => hnames (List.mem_of_mem_take hm)
  have hagain : safeStrcpy 2048 (names.take (2047 - (busText data route []).length)) =
      names.take (2047 - (busText data route []).length) :=
    snprintf_of_le (Nat.le_trans (List.length_take_le ..) (Nat.sub_le ..))
  unfold busItem
  rw [hcopy, cutFields_intercalate hfree (List.concat_ne_nil _ _) (by show 5 ≤ 5; decide)]
  unfold busFields
  dsimp only [List.cons_append, List.nil_append]
  rw [hagain]

/-- What the viewer shows of an item is the route when its stop names are all
there and fit the copy. -/
theorem busItem_eq_iff (h : CleanTexts data) {route : RouteNode} (hr : route ∈ data.routes) {names : Str}
    (hsub : names.Sublist ([44].intercalate (busNames data route))) :
    busItem (busText data route names) = some (busView data route) ↔
      names = [44].intercalate (busNames data route) ∧ (busText data route names).length ≤ 2047 := by
  have hcolon : itemSep ∉ names := fun hm =>
    not_mem_busNames h hr (by decide) (by decide) (hsub.subset hm)
  rw [busItem_busText h hr hcolon, Option.some.injEq, busView, BusItem.mk.injEq, length_busText data route names]
  constructor
  · rintro ⟨-, -, -, -, hpieces⟩
    have hlen := length_pieces_le (c := 44) (names.take (2047 - (busText data route []).length))
    have hhead := length_busText_nil_le data route
    rw [hpieces, List.length_take] at hlen
    -- shown in full, the names are as long as all names together
    have hfull := hsub.eq_of_length_le (by omega)
    refine ⟨hfull, ?_⟩
    rw [← hfull] at hlen
    omega
  · rintro ⟨hfull, hfits⟩
    have hclean := busNames_clean h hr
    have hcomma : ∀ name ∈ busNames data route, 44 ∉ name := fun name hname =>
      (hclean name hname).free 44 (by decide)
    have hlast : (busNames data route).getLast? ≠ some [] := fun hl =>
      (hclean [] (List.mem_of_getLast? hl)).nonempty rfl
    rw [List.take_of_length_le (by omega), hfull, pieces_intercalate hcomma hlast]
    exact ⟨rfl, rfl, rfl, rfl, rfl⟩

/-! ## All routes -/

theorem routesFrom_sublist (data : AppData D) (routes : List RouteNode) (used i : Nat) :
    (routesFrom data used i routes).Sublist routes := by
  induction routes generalizing used i with
  | nil => exact List.Sublist.refl _
  | cons route rest ih =>
    unfold routesFrom
    split
    · exact List.nil_sublist _
    · exact (ih _ _).cons_cons route

theorem mem_routesListed {keyword : Str} {route : RouteNode} (h : route ∈ routesListed data keyword) :
    route ∈ data.routes :=
  mem_busListing ((routesFrom_sublist data _ _ _).subset h)

theorem length_routesListed_le (data : AppData D) (keyword : Str) : (routesListed data keyword).length ≤ 10 :=
  Nat.le_trans (routesFrom_sublist data _ _ _).length_le (List.length_take_le ..)

section Items

variable {items : List (RouteNode × Str)}

/-- Of the separators, no text of an item has other than its own. -/
theorem items_free (h : CleanTexts data) (hroutes : ∀ item ∈ items, item.1 ∈ data.routes)
    (hsub : ∀ item ∈ items, item.2.Sublist ([44].intercalate (busNames data item.1))) {c : Byte}
    (hc : c ∈ separators) (hcomma : c ≠ 44) (hcolon : c ≠ itemSep) :
    ∀ t ∈ items.map fun item => busText data item.1 item.2, c ∉ t := by
  rw [List.forall_mem_map]
  intro item hitem
  refine not_mem_busText h (hroutes item hitem) hc hcolon fun hm => ?_
  exact not_mem_busNames h (hroutes item hitem) hc hcomma ((hsub item hitem).subset hm)

/-- The viewer cuts a packet of route items where the server joined them. -/
theorem shownRoutes_items (h : CleanTexts data) (hroutes : ∀ item ∈ items, item.1 ∈ data.routes)
    (hsub : ∀ item ∈ items, item.2.Sublist ([44].intercalate (busNames data item.1)))
    (hlen : (header pktBusSearchRes .ok ++
      itemsFrom 0 (items.map fun item => busText data item.1 item.2)).length + 2 ≤ maxPacketSize) :
    shownRoutes (header pktBusSearchRes .ok ++ itemsFrom 0 (items.map fun item => busText data item.1 item.2) ++
      [packetTerm]) = items.map fun item => busItem (busText data item.1 item.2) := by
  have hbody : stripNewline (itemsFrom 0 (items.map fun item => busText data item.1 item.2)) =
      itemsFrom 0 (items.map fun item => busText data item.1 item.2) :=
    stripNewline_of_free
      (not_mem_intercalate (by decide)
        (items_free h hroutes hsub (c := packetTerm) (by decide) (by decide) (by decide)))
      (not_mem_intercalate (by decide) (items_free h hroutes hsub (by decide) (by decide) (by decide)))
  have hcopy : safeStrcpy maxPacketSize (itemsFrom 0 (items.map fun item => busText data item.1 item.2)) =
      itemsFrom 0 (items.map fun item => busText data item.1 item.2) :=
    snprintf_of_le (by rw [List.length_append] at hlen; omega)
  have hlast : (items.map fun item => busText data item.1 item.2).getLast? ≠ some [] := by
    intro hl
    obtain ⟨item, -, hnil⟩ := List.mem_map.mp (List.mem_of_getLast? hl)
    exact busText_ne_nil data item.1 item.2 hnil
  unfold shownRoutes busItems
  rw [responseHeader_eq (by decide) hlen hbody, hcopy]
  show List.map _ (List.map _ (pieces listSep ([listSep].intercalate _))) = _
  rw [pieces_intercalate (items_free h hroutes hsub (by decide) (by decide) (by decide)) hlast, List.map_map,
    List.map_map]
  rfl

end Items

/-- A response is complete when its line feed fits. -/
theorem room_of_framed {buf : Str} (hbuf : Plain buf) {size : Nat}
    (h : Framed (strAppend buf size [packetTerm]).1) : buf.length + 2 ≤ size := by
  by_contra hfull
  have hsame : (strAppend buf size [packetTerm]).1 = buf := by
    unfold strAppend
    rw [if_pos (by rw [List.length_singleton]; omega)]
  obtain ⟨body, heq, -⟩ := h
  rw [hsame] at heq
  rw [heq, plain_append] at hbuf
  exact hbuf.2 (List.mem_singleton_self _)

/-- The viewer shows the routes a search has found exactly when the item of
each fits its copy. -/
theorem shownRoutes_iff (h : CleanTexts data) {keyword : Str}
    (hok : (handleBusSearch data keyword maxPacketSize).code = .ok)
    (hframed : Framed (handleBusSearch data keyword maxPacketSize).response) :
    shownRoutes (handleBusSearch data keyword maxPacketSize).response =
      (routesListed data keyword).map (fun route => some (busView data route)) ↔
    ∀ route ∈ routesListed data keyword,
      (busText data route ([44].intercalate (busNames data route))).length ≤ 2047 := by
  have hsize : maxPacketSize = 32768 := rfl
  obtain ⟨hplain, hheader⟩ := header_spec (by decide : pktBusSearchRes ∈ packetTypes) .ok
  have hkey : (strIsBlank keyword || strContainsProtocolDelim keyword) = false := by
    cases hkey : strIsBlank keyword || strContainsProtocolDelim keyword with
    | false => rfl
    | true =>
      unfold handleBusSearch at hok
      rw [if_pos hkey] at hok
      cases hok
  rw [Bool.or_eq_false_iff] at hkey
  rw [handleBusSearch_listing hkey.1 hkey.2] at hok hframed ⊢
  by_cases hnone : busListing data keyword = []
  · rw [if_pos hnone] at hok
    cases hok
  rw [if_neg hnone] at hframed ⊢
  obtain ⟨items, hfst, hpack, hsub, hall⟩ := packRoutes_split data (busListing data keyword)
    (header pktBusSearchRes .ok) 0
  rw [show routesFrom data _ 0 (busListing data keyword) = routesListed data keyword from rfl] at hfst hall
  have hroutes : ∀ item ∈ items, item.1 ∈ data.routes := fun item hitem =>
    mem_routesListed (hfst ▸ List.mem_map_of_mem hitem)
  have hbody : Plain (header pktBusSearchRes .ok ++
      itemsFrom 0 (items.map fun item => busText data item.1 item.2)) :=
    plain_append.mpr ⟨hplain,
      not_mem_intercalate (by decide) (items_free h hroutes hsub (by decide) (by decide) (by decide))⟩
  rw [hpack] at hframed ⊢
  have hlen := room_of_framed hbody hframed
  rw [strAppend_of_le (by rw [List.length_singleton]; omega), shownRoutes_items h hroutes hsub hlen, ← hfst,
    List.map_map]
  constructor
  · intro hshown
    rw [List.forall_mem_map]
    intro item hitem
    have hone := (busItem_eq_iff h (hroutes item hitem) (hsub item hitem)).mp
      (List.map_inj_left.mp hshown item hitem)
    rw [← hone.1]
    exact hone.2
  · intro hfits
    -- ten items of that length leave room in the packet, so no stop name is left out
    have htexts : ∀ t ∈ (routesListed data keyword).map fun route =>
        busText data route ([44].intercalate (busNames data route)), t.length ≤ 2047 := by
      rw [List.forall_mem_map, ← hfst]
      exact hfits
    have hten := length_routesListed_le data keyword
    have htotal := length_itemsFrom_le htexts 0
    rw [List.length_map] at htotal
    have hwhole := hall (by rw [List.length_append]; omega)
    refine List.map_congr_left fun item hitem => ?_
    refine (busItem_eq_iff h (hroutes item hitem) (hsub item hitem)).mpr ⟨hwhole item hitem, ?_⟩
    rw [hwhole item hitem]
    exact hfits item.1 (List.mem_map_of_mem hitem)

/-! ## From the request on -/

theorem routeRequest_stop [CDouble D] {env : Env} {fs : UserFiles} {request : List Byte} {size : Nat}
    (h : (splitRequest request).1 = pktStopSearchReq) :
    (routeRequest data env fs request size).1 = handleStopSearch data (splitRequest request).2 size := by
  have h1 : (pktStopSearchReq = pktHello) = False := by decide
  have h2 : (pktStopSearchReq = pktPing) = False := by decide
  simp only [routeRequest, h, h1, h2, ↓reduceIte, runServiceAndSaveRecent]

/-- The client shows what a stop search or a bus search has found exactly when
every item fits the viewer's copy. -/
theorem searchViews_iff [CDouble D] (h : CleanTexts data) (env : Env) (fs : UserFiles) (request : List Byte)
    (hok : (routeRequest data env fs request maxPacketSize).1.code = .ok)
    (hframed : Framed (routeRequest data env fs request maxPacketSize).1.response) :
    ((splitRequest request).1 = pktStopSearchReq →
      (shownItems 3 (routeRequest data env fs request maxPacketSize).1.response =
          (stopsListed data (splitRequest request).2).map (stopRow data) ↔
        (∀ stop ∈ stopsListed data (splitRequest request).2, StopFits data stop) ∧
          stripNewline (listText ((stopsListed data (splitRequest request).2).map (stopRow data))) =
            listText ((stopsListed data (splitRequest request).2).map (stopRow data)))) ∧
    ((splitRequest request).1 = pktBusSearchReq →
      (shownRoutes (routeRequest data env fs request maxPacketSize).1.response =
          (routesListed data (splitRequest request).2).map (fun route => some (busView data route)) ↔
        ∀ route ∈ routesListed data (splitRequest request).2,
          (busText data route ([44].intercalate (busNames data route))).length ≤ 2047)) := by
  refine ⟨fun hstop => ?_, fun hbus => ?_⟩
  · rw [routeRequest_stop hstop] at hok ⊢
    exact shownStops_iff h hok
  · rw [routeRequest_bus hbus] at hok hframed ⊢
    exact shownRoutes_iff h hok hframed

/-! ## A route with long stop names -/

/-! The graph does not matter to a bus search. -/

theorem busText_graph (data : AppData D) (g : TransferGraph D) (route : RouteNode) (names : Str) :
    busText { data with graph := g } route names = busText data route names := rfl

theorem busNames_graph (data : AppData D) (g : TransferGraph D) (route : RouteNode) :
    busNames { data with graph := g } route = busNames data route := rfl

theorem busUsed_graph (data : AppData D) (g : TransferGraph D) (routes : List RouteNode) (used i : Nat) :
    busUsed { data with graph := g } routes used i = busUsed data routes used i := by
  induction routes generalizing used i with
  | nil => rfl
  | cons route rest ih =>
    unfold busUsed
    rw [ih]
    rfl

/-- The store that the loader makes of those files. -/
def crowdedLoaded (n : Nat) : AppData ℚ :=
  { crowdedStore n with graph := (dataLoaderBuildGraph (crowdedStore n)).1.graph }

theorem dataLoaderLoad_crowdedLoaded {n : Nat} (hn : 0 < n) :
    (dataLoaderLoad (crowdedFiles n) : AppData ℚ × Bool) = (crowdedLoaded n, true) := by
  have hgraph : (crowdedStore n).graph = graphInit := rfl
  rw [dataLoaderLoad_crowded hn]
  exact Prod.ext rfl (dataLoaderBuildGraph_ok hgraph (List.mem_cons_self ..))

theorem cleanTexts_crowded (n : Nat) : CleanTexts (crowdedLoaded n) := by
  have hS : CleanText (utf8 "S") := .of_all (by decide) (by decide)
  have hone : CleanText (utf8 "1") := .of_all (by decide) (by decide)
  have hT : CleanText (utf8 "T") := .of_all (by decide) (by decide)
  have hname : CleanText (List.replicate 98 65) :=
    ⟨List.cons_ne_nil _ _, fun c hc hm => absurd (List.eq_of_mem_replicate hm ▸ hc) (by decide)⟩
  have hlabel : ∀ label, routeDisplayLabel (crowdedStore 0) (crowdedRoute 0) maxRouteLen = some label →
      CleanText label := by
    intro label hl
    have hsome : routeDisplayLabel (crowdedStore 0) (crowdedRoute 0) maxRouteLen =
        some (utf8 "1번 - " ++ List.replicate 98 65 ++ utf8 " 방면") := by decide +kernel
    rw [hsome, Option.some.injEq] at hl
    rw [← hl]
    exact .of_all (by decide) (by decide)
  refine ⟨List.forall_mem_singleton.mpr ⟨hS, hname⟩, List.forall_mem_singleton.mpr ⟨hT, hT⟩,
    List.forall_mem_singleton.mpr ⟨hone, hS, hS, fun rs hrs => ?_⟩, List.forall_mem_singleton.mpr hlabel⟩
  rw [List.eq_of_mem_replicate hrs]
  exact hS

theorem routesListed_crowded (n : Nat) : routesListed (crowdedLoaded n) (utf8 "1") = [crowdedRoute n] := by
  have hroom : ¬ BusFull (header pktBusSearchRes .ok).length := by decide
  unfold routesListed crowdedLoaded
  rw [busListing_crowded, routesFrom, if_neg hroom]
  rfl

/-- A search for the route is answered with a complete response while the names leave room for it. -/
theorem crowdedSearch_ok {n : Nat} (hn : 0 < n)
    (hroom : busUsed (crowdedLoaded n) [crowdedRoute n] (header pktBusSearchRes .ok).length 0 < maxPacketSize - 1)
    (env : Env) (fs : UserFiles) :
    (routeRequest (crowdedLoaded n) env fs (utf8 "BUS_SEARCH_REQ|1\n") maxPacketSize).1.code = .ok ∧
      Framed (routeRequest (crowdedLoaded n) env fs (utf8 "BUS_SEARCH_REQ|1\n") maxPacketSize).1.response := by
  have hstore := loadedStore (D := ℚ) (crowdedFiles n)
  have hrequest : splitRequest (utf8 "BUS_SEARCH_REQ|1\n") = (pktBusSearchReq, utf8 "1") := rfl
  have hlisting : busListing (crowdedLoaded n) (utf8 "1") = [crowdedRoute n] := busListing_crowded n _
  have hblank : strIsBlank (utf8 "1") = false := by decide
  have hdelim : strContainsProtocolDelim (utf8 "1") = false := by decide
  rw [dataLoaderLoad_crowdedLoaded hn] at hstore
  rw [routeRequest_bus (congrArg Prod.fst hrequest), hrequest]
  refine ⟨?_, (handleBusSearch_spec hstore.records hblank hdelim).2.mpr ?_⟩
  · rw [handleBusSearch_listing hblank hdelim, hlisting, if_neg (List.cons_ne_nil _ _)]
  · rw [hlisting]
    exact hroom

/-- With one stop the route is shown whole. -/
theorem searchViews_crowded :
    shownRoutes (routeRequest (crowdedLoaded 1) ⟨.allOk, true, []⟩ ⟨none, none, none, none⟩
        (utf8 "BUS_SEARCH_REQ|1\n") maxPacketSize).1.response =
      [some (busView (crowdedLoaded 1) (crowdedRoute 1))] := by
  have hrequest : splitRequest (utf8 "BUS_SEARCH_REQ|1\n") = (pktBusSearchReq, utf8 "1") := rfl
  have hroom : busUsed (crowdedLoaded 1) [crowdedRoute 1] (header pktBusSearchRes .ok).length 0 <
      maxPacketSize - 1 := by
    rw [crowdedLoaded, busUsed_graph]
    decide +kernel
  have hfits : (busText (crowdedLoaded 1) (crowdedRoute 1)
      ([44].intercalate (busNames (crowdedLoaded 1) (crowdedRoute 1)))).length ≤ 2047 := by
    rw [crowdedLoaded, busText_graph, busNames_graph]
    decide +kernel
  obtain ⟨hok, hframed⟩ := crowdedSearch_ok (by decide) hroom ⟨.allOk, true, []⟩ ⟨none, none, none, none⟩
  have hview := (searchViews_iff (cleanTexts_crowded 1) _ _ _ hok hframed).2 (congrArg Prod.fst hrequest)
  rw [hrequest, routesListed_crowded] at hview
  exact hview.mpr (List.forall_mem_singleton.mpr hfits)

/-- With 30 stops it is not, although the response is complete. -/
theorem searchViews_cut :
    (dataLoaderLoad (crowdedFiles 30) : AppData ℚ × Bool) = (crowdedLoaded 30, true) ∧
      CleanTexts (crowdedLoaded 30) ∧
      (routeRequest (crowdedLoaded 30) ⟨.allOk, true, []⟩ ⟨none, none, none, none⟩ (utf8 "BUS_SEARCH_REQ|1\n")
        maxPacketSize).1.code = .ok ∧
      Framed (routeRequest (crowdedLoaded 30) ⟨.allOk, true, []⟩ ⟨none, none, none, none⟩
        (utf8 "BUS_SEARCH_REQ|1\n") maxPacketSize).1.response ∧
      shownRoutes (routeRequest (crowdedLoaded 30) ⟨.allOk, true, []⟩ ⟨none, none, none, none⟩
          (utf8 "BUS_SEARCH_REQ|1\n") maxPacketSize).1.response ≠
        [some (busView (crowdedLoaded 30) (crowdedRoute 30))] := by
  have hrequest : splitRequest (utf8 "BUS_SEARCH_REQ|1\n") = (pktBusSearchReq, utf8 "1") := rfl
  have hroom : busUsed (crowdedLoaded 30) [crowdedRoute 30] (header pktBusSearchRes .ok).length 0 <
      maxPacketSize - 1 := by
    rw [crowdedLoaded, busUsed_graph]
    decide +kernel
  have hlong : ¬ (busText (crowdedLoaded 30) (crowdedRoute 30)
      ([44].intercalate (busNames (crowdedLoaded 30) (crowdedRoute 30)))).length ≤ 2047 := by
    rw [crowdedLoaded, busText_graph, busNames_graph]
    decide +kernel
  obtain ⟨hok, hframed⟩ := crowdedSearch_ok (by decide) hroom ⟨.allOk, true, []⟩ ⟨none, none, none, none⟩
  refine ⟨dataLoaderLoad_crowdedLoaded (by decide), cleanTexts_crowded 30, hok, hframed, fun hshown => ?_⟩
  rw [routeRequest_bus (congrArg Prod.fst hrequest), hrequest] at hok hframed hshown
  have hview := shownRoutes_iff (cleanTexts_crowded 30) hok hframed
  rw [routesListed_crowded] at hview
  exact hlong (hview.mp hshown _ (List.mem_singleton_self _))

end Transit
