import Transit.Proof.RecordViews
import Transit.Proof.BusReply
import Transit.Proof.Searching

/-!
# Which routes a bus search lists

A bus search leaves out a route that it has listed before, with the same label
and the same first and last stop. It keeps them as keys `label>start>end` in a
text of 4096 bytes, which has room for twelve, and searches it with a needle of
131 bytes, into which a long key does not fit.

* `busListing_eq`: the routes listed are the first ten of those whose keys are
  not found among the keys before.
* `busListing_wanted_iff`: they are the first ten with different labels, first
  and last stops exactly when the keys of these are not found among one another.
-/

namespace Transit

open Framework

variable {D : Type} {data : AppData D}

/-- The key of a route. -/
def busKey (data : AppData D) (route : RouteNode) : Str :=
  (routeDisplayLabel data route maxRouteLen).getD [] ++ utf8 ">" ++ findNodeNameById data route.startStopId ++
    utf8 ">" ++ findNodeNameById data route.endStopId

/-- What tells routes apart. -/
def busTriple (data : AppData D) (route : RouteNode) : Option Str × Str × Str :=
  (routeDisplayLabel data route maxRouteLen, findNodeNameById data route.startStopId,
    findNodeNameById data route.endStopId)

/-- The routes that match and have a label, by rank and by their place in the list. -/
def routesMatching (data : AppData D) (keyword : Str) : List RouteNode :=
  (rankedRoutes data keyword [1, 2, 3]).filter fun route => (routeDisplayLabel data route maxRouteLen).isSome

/-- The first ten of them that differ. -/
def routesWanted (data : AppData D) (keyword : Str) : List RouteNode :=
  ((routesMatching data keyword).eraseDupsBy (busTriple data · == busTriple data ·)).take 10

/-- The key of `route` is found where that of `other` is kept. -/
def keyClash (data : AppData D) (route other : RouteNode) : Bool := keyFound (busKey data route) (busKey data other)

/-- The names of the routes are free of the fence. -/
def NamesFree (data : AppData D) : Prop :=
  ∀ route ∈ data.routes, ∀ label ∈ routeDisplayLabel data route maxRouteLen, 124 ∉ label ∧
    124 ∉ findNodeNameById data route.startStopId ∧ 124 ∉ findNodeNameById data route.endStopId

/-! ## Keys -/

/-- A route with a label, the names being free of the fence. -/
structure KeyRoute (data : AppData D) (route : RouteNode) : Prop where
  label : (routeDisplayLabel data route maxRouteLen).isSome
  free : 124 ∉ busKey data route

theorem busKey_ne_nil (data : AppData D) (route : RouteNode) : busKey data route ≠ [] := by
  have hsep : utf8 ">" ≠ [] := by decide
  simp [busKey, hsep]

theorem length_busKey_le (data : AppData D) (route : RouteNode) : (busKey data route).length ≤ 327 := by
  have hlabel : ((routeDisplayLabel data route maxRouteLen).getD []).length ≤ 127 := by
    cases hl : routeDisplayLabel data route maxRouteLen with
    | none => exact Nat.zero_le _
    | some label => exact length_routeDisplayLabel hl
  have hstart := length_findNodeNameById data route.startStopId
  have hend := length_findNodeNameById data route.endStopId
  have hsep : (utf8 ">").length = 1 := by decide
  unfold busKey
  simp only [List.length_append]
  omega

theorem KeyRoute.of_names (h : NamesFree data) {route : RouteNode} (hr : route ∈ data.routes)
    (hl : (routeDisplayLabel data route maxRouteLen).isSome) : KeyRoute data route := by
  obtain ⟨label, hlabel⟩ := Option.isSome_iff_exists.mp hl
  obtain ⟨h1, h2, h3⟩ := h route hr label hlabel
  have hsep : (124 : Byte) ∉ utf8 ">" := by decide
  refine ⟨hl, ?_⟩
  unfold busKey
  rw [hlabel, Option.getD_some]
  simp only [List.mem_append, not_or]
  exact ⟨⟨⟨⟨h1, hsep⟩, h2⟩, hsep⟩, h3⟩

/-- The keys of some routes leave room for others. -/
theorem length_keys_le (data : AppData D) (kept : List RouteNode) :
    (fences 124 (kept.map (busKey data))).length ≤ kept.length * 329 := by
  rw [length_fences, List.map_map]
  induction kept with
  | nil => exact Nat.zero_le _
  | cons route kept ih =>
    have hkey := length_busKey_le data route
    rw [List.map_cons, List.sum_cons, List.length_cons, Nat.add_mul]
    dsimp only [Function.comp_apply]
    omega

/-- `mark_bus_route_seen` with the keys of at most eleven routes. -/
theorem markBusRouteSeen_keys {kept : List RouteNode} (hkept : ∀ r ∈ kept, KeyRoute data r) (hlen : kept.length ≤ 11)
    {route : RouteNode} (h : KeyRoute data route) :
    markBusRouteSeen data route (fences 124 (kept.map (busKey data))) stopRoutesTextSize =
      if kept.any (keyClash data route) then (fences 124 (kept.map (busKey data)), false)
      else (fences 124 ((kept ++ [route]).map (busKey data)), true) := by
  obtain ⟨label, hlabel⟩ := Option.isSome_iff_exists.mp h.label
  have hbuffer : maxRouteLen + maxNameLen * 2 + 8 - 1 = 335 := rfl
  have hsize : stopRoutesTextSize = 4096 := rfl
  have hkeyLen := length_busKey_le data route
  have hroom := length_keys_le data kept
  have hkey : snprintf (maxRouteLen + maxNameLen * 2 + 8) (label ++ utf8 ">" ++
      findNodeNameById data route.startStopId ++ utf8 ">" ++ findNodeNameById data route.endStopId) =
      busKey data route := by
    have heq : label ++ utf8 ">" ++ findNodeNameById data route.startStopId ++ utf8 ">" ++
        findNodeNameById data route.endStopId = busKey data route := by
      unfold busKey
      rw [hlabel, Option.getD_some]
    rw [heq]
    exact snprintf_of_le (by omega)
  have hkeys : ∀ k ∈ kept.map (busKey data), 124 ∉ k ∧ k ≠ [] :=
    List.forall_mem_map.mpr fun r hr => ⟨(hkept r hr).free, busKey_ne_nil data r⟩
  have hexists : routeKeyExists (fences 124 (kept.map (busKey data))) (busKey data route) =
      kept.any (keyClash data route) := by
    rw [routeKeyExists_fences hkeys h.free (busKey_ne_nil data route), List.any_map]
    rfl
  have hfenced : [124] ++ busKey data route ++ [124] = fenced (124 : Byte) (busKey data route) := by
    simp [fenced]
  have hadd : strAppendf (fences 124 (kept.map (busKey data))) stopRoutesTextSize
      (fenced 124 (busKey data route)) = (fences 124 ((kept ++ [route]).map (busKey data)), true) := by
    have hfit : (fenced (124 : Byte) (busKey data route)).length = (busKey data route).length + 2 := by simp [fenced]
    rw [strAppendf_of_lt (by omega), List.map_append, List.map_singleton, fences_concat]
  unfold markBusRouteSeen
  rw [hlabel]
  dsimp only
  rw [hkey, hexists, hfenced, hadd]

theorem markBusRouteSeen_none {route : RouteNode} (h : routeDisplayLabel data route maxRouteLen = none) (keys : Str)
    (n : Nat) : markBusRouteSeen data route keys n = (keys, false) := by
  unfold markBusRouteSeen
  rw [h]

/-! ## The routes listed -/

/-- While there is room for keys, the routes not seen are those whose keys are not found. -/
theorem take_newRoutes {kept routes : List RouteNode} {n : Nat} (hlen : kept.length + n ≤ 12)
    (hkept : ∀ r ∈ kept, KeyRoute data r)
    (hroutes : ∀ r ∈ routes, (routeDisplayLabel data r maxRouteLen).isSome → KeyRoute data r) :
    (newRoutes data routes (fences 124 (kept.map (busKey data)))).take n =
      (firsts (keyClash data) kept
        (routes.filter fun route => (routeDisplayLabel data route maxRouteLen).isSome)).take n := by
  induction routes generalizing kept n with
  | nil => rfl
  | cons route routes ih =>
    rw [List.forall_mem_cons] at hroutes
    cases n with
    | zero => rfl
    | succ n =>
      rw [newRoutes]
      cases hlabel : (routeDisplayLabel data route maxRouteLen).isSome with
      | false =>
        rw [markBusRouteSeen_none (Option.isNone_iff_eq_none.mp (Option.isSome_eq_false_iff.mp hlabel)),
          List.filter_cons_of_neg (by rw [hlabel]; decide)]
        exact ih hlen hkept hroutes.2
      | true =>
        have hkey := hroutes.1 hlabel
        rw [markBusRouteSeen_keys hkept (by omega) hkey, List.filter_cons_of_pos (by rw [hlabel])]
        cases hclash : kept.any (keyClash data route) with
        | true =>
          rw [if_pos rfl, firsts_cons_of_any hclash]
          exact ih hlen hkept hroutes.2
        | false =>
          have hnext : ∀ r ∈ kept ++ [route], KeyRoute data r := by
            rw [List.forall_mem_append, List.forall_mem_singleton]
            exact ⟨hkept, hkey⟩
          have hroom : (kept ++ [route]).length + n ≤ 12 := by
            rw [List.length_append, List.length_singleton]
            omega
          rw [if_neg Bool.false_ne_true, firsts_cons hclash, List.take_succ_cons, List.take_succ_cons,
            ih hroom hnext hroutes.2]

theorem mem_rankedRoutes {keyword : Str} {ranks : List Nat} {route : RouteNode}
    (h : route ∈ rankedRoutes data keyword ranks) : route ∈ data.routes := by
  obtain ⟨rank, -, hroute⟩ := List.mem_flatMap.mp h
  exact (List.mem_filter.mp hroute).1

theorem busListing_eq (h : NamesFree data) (keyword : Str) :
    busListing data keyword = ((routesMatching data keyword).eraseDupsBy (keyClash data)).take 10 := by
  have htake := @take_newRoutes D data [] (rankedRoutes data keyword [1, 2, 3]) 10 (by decide)
    (List.forall_mem_nil _) fun r hr hlabel => KeyRoute.of_names h (mem_rankedRoutes hr) hlabel
  rw [firsts_empty] at htake
  exact htake

theorem keyClash_of_triple {route other : RouteNode} (h : (busTriple data route == busTriple data other) = true) :
    keyClash data route other = true := by
  have htriple := eq_of_beq h
  unfold busTriple at htriple
  rw [Prod.mk.injEq, Prod.mk.injEq] at htriple
  have hkey : busKey data route = busKey data other := by
    unfold busKey
    rw [htriple.1, htriple.2.1, htriple.2.2]
  unfold keyClash
  rw [hkey]
  exact keyFound_self _

/-- What a handler that lists these routes answers. -/
def busAnswer (data : AppData D) (routes : List RouteNode) : Reply :=
  if routes = [] then notFoundReply maxPacketSize pktBusSearchRes
  else ⟨.ok, (strAppend (packRoutes data routes (header pktBusSearchRes .ok, 0)).1 maxPacketSize [packetTerm]).1⟩

/-- A bus search answers with the routes of its listing. These are the routes
wanted exactly when the key of none of them is found among those before. -/
theorem busListing_wanted_iff (h : NamesFree data) {keyword : Str} (hb : strIsBlank keyword = false)
    (hd : strContainsProtocolDelim keyword = false) :
    handleBusSearch data keyword maxPacketSize = busAnswer data (busListing data keyword) ∧
    (busListing data keyword = routesWanted data keyword ↔
      (routesWanted data keyword).Pairwise fun earlier route => keyClash data route earlier = false) := by
  refine ⟨handleBusSearch_listing hb hd, ?_⟩
  rw [busListing_eq h]
  exact take_eraseDupsBy_eq_iff (fun _ _ => keyClash_of_triple) _ _

theorem namesFree_of_all (h : (data.routes.all fun route =>
    (routeDisplayLabel data route maxRouteLen).all fun label => !label.contains 124 &&
      !(findNodeNameById data route.startStopId).contains 124 &&
      !(findNodeNameById data route.endStopId).contains 124) = true) : NamesFree data := by
  intro route hroute label hlabel
  have hfree := List.all_eq_true.mp h route hroute
  rw [Option.mem_def.mp hlabel, Option.all_some, Bool.and_eq_true, Bool.and_eq_true, Bool.not_eq_true',
    Bool.not_eq_true', Bool.not_eq_true', ← Bool.not_eq_true, ← Bool.not_eq_true, ← Bool.not_eq_true,
    List.contains_iff_mem, List.contains_iff_mem, List.contains_iff_mem, and_assoc] at hfree
  exact hfree

/-- Two routes with the same label and the same last stop, whose name has this
many bytes; their first stops differ behind the first twenty bytes. -/
def twoRoutesFiles (n : Nat) : CsvFiles where
  busStops := some (utf8 "stop_id,stop_name\nE," ++ List.replicate n 120 ++ utf8 "\nA," ++ List.replicate 20 121 ++
    utf8 "1\nB," ++ List.replicate 20 121 ++ utf8 "2\n")
  busRoutes := some (utf8 "route_no,route_name,start_stop_id,end_stop_id\n1,1,A,E\n2,1,B,E\n")
  routeStops := some (utf8 "route_no,seq,stop_id\n1,1,A\n2,1,B\n")
  subwayStations := some (utf8 "station_id,station_name,line_no\nT,T,2\n")
  subwayDistances := some (utf8 "from_station_id,to_station_id,distance_km,estimated_minutes\nT,T,,2\n")
  facilities := some (utf8 "facility_id,name,category,nearest_node_id,address\nF,Kiosk,shop,S,Main St\n")
  arrivalTest := some (utf8 "route_no,node_id,time_slot,arrival_minutes,status\n")
  crowdingTest := some (utf8 "route_no,node_id,time_slot,crowding_level\n")

/-- With a short name both are listed. -/
theorem busListing_short : handleBusSearch (loadedData (twoRoutesFiles 1) : AppData ℚ) (utf8 "1") maxPacketSize =
      busAnswer (loadedData (twoRoutesFiles 1) : AppData ℚ)
        (busListing (loadedData (twoRoutesFiles 1) : AppData ℚ) (utf8 "1")) ∧
    busListing (loadedData (twoRoutesFiles 1) : AppData ℚ) (utf8 "1") =
      routesWanted (loadedData (twoRoutesFiles 1) : AppData ℚ) (utf8 "1") := by
  have hnames : NamesFree (loadedData (twoRoutesFiles 1) : AppData ℚ) := namesFree_of_all (by decide +kernel)
  obtain ⟨hanswer, hwanted⟩ := @busListing_wanted_iff ℚ _ hnames (utf8 "1") (by decide) (by decide)
  exact ⟨hanswer, hwanted.mpr (by decide +kernel)⟩

/-- With a name of 99 bytes the second is not. -/
theorem busListing_long : (dataLoaderLoad (twoRoutesFiles 99) : AppData ℚ × Bool).2 = true ∧
    NamesFree (loadedData (twoRoutesFiles 99) : AppData ℚ) ∧
    (packRoutes (loadedData (twoRoutesFiles 99) : AppData ℚ)
      (busListing (loadedData (twoRoutesFiles 99) : AppData ℚ) (utf8 "1")) (header pktBusSearchRes .ok, 0)).2 =
      (busListing (loadedData (twoRoutesFiles 99) : AppData ℚ) (utf8 "1")).length ∧
    busListing (loadedData (twoRoutesFiles 99) : AppData ℚ) (utf8 "1") ≠
      routesWanted (loadedData (twoRoutesFiles 99) : AppData ℚ) (utf8 "1") := by
  have hlen : (busListing (loadedData (twoRoutesFiles 99) : AppData ℚ) (utf8 "1")).length = 1 ∧
      (routesWanted (loadedData (twoRoutesFiles 99) : AppData ℚ) (utf8 "1")).length = 2 := by decide +kernel
  refine ⟨by decide +kernel, namesFree_of_all (by decide +kernel), by decide +kernel, fun heq => ?_⟩
  rw [heq] at hlen
  omega

end Transit
