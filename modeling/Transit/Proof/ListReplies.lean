import Transit.Proof.Buffers
import Transit.Proof.FileLines
import Transit.Proof.LabelTexts
import Transit.Proof.LoadedStore
import Transit.Server.FacilityService
import Transit.Server.OperationService
import Transit.Server.SearchService
import Transit.Server.UserStateService

/-!
# The responses that always end in their line feed

Every handler but those of `TRANSFER_REQ` and `BUS_SEARCH_REQ` leaves a
`Complete` response: the loops check the room an item needs before they append
it, or their items are few and short.
-/

namespace Transit

open Framework (cutAt cutAt_eq_some)

variable {D : Type} {data : AppData D}

theorem NodeTexts.findNodeNameById {P : Str → Prop} (h : NodeTexts P data) {nodeId : Str} (hid : P nodeId) :
    P (findNodeNameById data nodeId) := by
  unfold Transit.findNodeNameById
  split
  · rename_i stop hs
    exact (h.stops stop (List.mem_of_find?_eq_some hs)).2
  · split
    · rename_i station hs
      exact (h.stations station (List.mem_of_find?_eq_some hs)).2
    · exact hid

theorem plain_findNodeNameById (h : PlainData data) {nodeId : Str} (hn : Plain nodeId) :
    Plain (findNodeNameById data nodeId) := h.nodeTexts.findNodeNameById hn

theorem length_findNodeNameById (data : AppData D) (nodeId : CStr maxIdLen) :
    (findNodeNameById data nodeId).length ≤ 99 := by
  have hid : nodeId.val.length ≤ 31 := nodeId.2
  simp only [findNodeNameById]
  split
  · rename_i stop _; exact stop.stopName.2
  · split
    · rename_i station _; exact station.stationName.2
    · omega

/-! ## Arrival times and crowding -/

theorem complete_handleArrival (h : PlainData data) (payload : Str) :
    Complete maxPacketSize (handleArrival data payload maxPacketSize).response := by
  simp only [handleArrival]
  split
  · exact complete_invalidRequestReply (by decide)
  · split
    · exact complete_notFoundReply (by decide) (by decide)
    · rename_i arrival ha
      obtain ⟨h1, h2, h3, h4⟩ := h.arrivals arrival (List.mem_of_find?_eq_some ha)
      have l1 : arrival.routeNo.val.length ≤ 127 := arrival.routeNo.2
      have l2 := length_findNodeNameById data arrival.nodeId
      have l3 := length_fmtInt h4
      have l4 : arrival.status.val.length ≤ 49 := arrival.status.2
      have hsize : maxPacketSize = 32768 := rfl
      refine complete_message (by decide) _ ?_ ?_
      · simp only [plain_append, plain_cons, plain_nil]
        exact ⟨⟨⟨⟨⟨⟨h1, by decide, trivial⟩, plain_findNodeNameById h h2⟩, by decide, trivial⟩,
          plain_fmtInt _⟩, by decide, trivial⟩, h3⟩
      · simp only [List.length_append, List.length_singleton]; omega

theorem complete_handleCrowding (h : PlainData data) (payload : Str) :
    Complete maxPacketSize (handleCrowding data payload maxPacketSize).response := by
  simp only [handleCrowding]
  split
  · exact complete_invalidRequestReply (by decide)
  · split
    · exact complete_notFoundReply (by decide) (by decide)
    · rename_i crowding hc
      obtain ⟨h1, h2, h3, h4⟩ := h.crowdings crowding (List.mem_of_find?_eq_some hc)
      have l1 : crowding.routeNo.val.length ≤ 127 := crowding.routeNo.2
      have l2 := length_findNodeNameById data crowding.nodeId
      have l3 : crowding.timeSlot.val.length ≤ 31 := crowding.timeSlot.2
      have l4 : crowding.crowdingLevel.val.length ≤ 49 := crowding.crowdingLevel.2
      have hsize : maxPacketSize = 32768 := rfl
      refine complete_message (by decide) _ ?_ ?_
      · simp only [plain_append, plain_cons, plain_nil]
        exact ⟨⟨⟨⟨⟨⟨h1, by decide, trivial⟩, plain_findNodeNameById h h2⟩, by decide, trivial⟩, h3⟩,
          by decide, trivial⟩, h4⟩
      · simp only [List.length_append, List.length_singleton]; omega

/-! ## Facilities -/

theorem roomy_appendFacilities {facilities : List (FacilityNode D)} {nodeId category : Str}
    (h : ∀ f ∈ facilities, Plain f.name ∧ Plain f.category ∧ Plain f.nearestNodeId ∧ Plain f.address)
    {response : Str} (hr : Roomy maxPacketSize response) (count : Nat) :
    Roomy maxPacketSize (appendFacilities maxPacketSize nodeId category facilities response count).1 := by
  induction facilities generalizing response count with
  | nil => exact hr
  | cons cur rest ih =>
    rw [List.forall_mem_cons] at h
    simp only [appendFacilities]
    split
    · split
      · exact hr
      · rename_i hroom
        refine ih h.2 (hr.item (by decide) _ ?_ ?_ _).1 _
        · simp only [facilityItem, plain_append, plain_cons, plain_nil]
          exact ⟨⟨⟨⟨⟨⟨h.1.1, by decide, trivial⟩, h.1.2.1⟩, by decide, trivial⟩, h.1.2.2.1⟩, by decide,
            trivial⟩, h.1.2.2.2⟩
        · simp only [facilityItem, List.length_append, List.length_singleton]; omega
    · exact ih h.2 hr count

theorem complete_handleFacility (h : PlainData data) (payload : Str) :
    Complete maxPacketSize (handleFacility data payload maxPacketSize).response := by
  simp only [handleFacility]
  split
  · exact complete_invalidRequestReply (by decide)
  · split
    · exact complete_invalidRequestReply (by decide)
    · split
      · exact complete_notFoundReply (by decide) (by decide)
      · split
        · exact complete_notFoundReply (by decide) (by decide)
        · exact (roomy_appendFacilities h.facilities (roomy_header (by decide) _ (by decide)) 0).complete

/-! ## Subway search -/

/-- A station takes at most 361 bytes with its separator. -/
theorem roomy_appendStations {keyword : Str} {stations : List (StationNode D)}
    (h : ∀ s ∈ stations, Plain s.stationId ∧ Plain s.stationName ∧ Plain s.lineNo ∧ Plain s.transferLines)
    {response : Str} {count : Nat} (hr : Roomy maxPacketSize response) (hc : count ≤ 20)
    (hlen : response.length ≤ 25 + 361 * count) :
    Roomy maxPacketSize (appendStations keyword maxPacketSize stations response count).1 := by
  induction stations generalizing response count with
  | nil => exact hr
  | cons cur rest ih =>
    rw [List.forall_mem_cons] at h
    simp only [appendStations]
    split
    · split
      · exact hr
      · rename_i hroom
        have l1 : cur.stationId.val.length ≤ 31 := cur.stationId.2
        have l2 : cur.stationName.val.length ≤ 99 := cur.stationName.2
        have l3 : cur.lineNo.val.length ≤ 127 := cur.lineNo.2
        have l4 : (if cur.transferLines.val ≠ [] then cur.transferLines.val else [45]).length ≤ 99 := by
          split
          · exact cur.transferLines.2
          · decide
        have p4 : Plain (if cur.transferLines.val ≠ [] then cur.transferLines.val else [45]) := by
          split
          · exact h.1.2.2.2
          · decide
        have hsize : maxPacketSize = 32768 := rfl
        have hitem := hr.item (by decide : listSep ≠ packetTerm) (cur.stationId.val ++ [itemSep] ++
          cur.stationName.val ++ [itemSep] ++ cur.lineNo.val ++ [itemSep] ++
          if cur.transferLines.val ≠ [] then cur.transferLines.val else [45]) ?_ ?_ (count > 0)
        · refine ih h.2 hitem.1 (by omega) (Nat.le_trans hitem.2 ?_)
          simp only [List.length_append, List.length_singleton]; omega
        · simp only [plain_append, plain_cons, plain_nil]
          exact ⟨⟨⟨⟨⟨⟨h.1.1, by decide, trivial⟩, h.1.2.1⟩, by decide, trivial⟩, h.1.2.2.1⟩, by decide,
            trivial⟩, p4⟩
        · simp only [List.length_append, List.length_singleton]; omega
    · exact ih h.2 hr hc hlen

theorem complete_handleSubwaySearch (h : PlainData data) (keyword : Str) :
    Complete maxPacketSize (handleSubwaySearch data keyword maxPacketSize).response := by
  simp only [handleSubwaySearch]
  split
  · exact complete_invalidRequestReply (by decide)
  · split
    · exact complete_notFoundReply (by decide) (by decide)
    · refine (roomy_appendStations h.stations (roomy_header (by decide) _ (by decide)) (by decide) ?_).complete
      exact Nat.le_trans (List.length_take_le' ..) (header_spec (by decide) _).2

/-! ## Stop search -/

theorem plain_routeNumberFromRouteId {routeNo out : Str} {n : Nat} (h : Plain routeNo)
    (ho : routeNumberFromRouteId routeNo n = some out) : Plain out := by
  have hskip : ∀ s : Str, Plain s → Plain (routeNumberFromRouteId.skipZeros s) := by
    intro s
    fun_induction routeNumberFromRouteId.skipZeros s with
    | case1 d rest ih => exact fun hs => ih (plain_cons.mp hs).2
    | case2 => exact id
    | case3 => exact id
  simp only [routeNumberFromRouteId] at ho
  split at ho
  · split at ho
    · cases ho
    · cases ho
      exact (hskip _ (h.of_subset (List.drop_subset _ _))).snprintf _
  · cases ho

theorem plain_routeNumberToken (p : Str) : Plain (routeNumberToken p).1 := by
  intro hm
  have hdigit := List.mem_takeWhile_imp (List.mem_of_mem_take hm)
  revert hdigit
  decide

theorem plain_nameText {routeNo name text : Str} (h1 : Plain routeNo) (h2 : Plain name)
    (h : NameText routeNo name text) : Plain text := by
  cases h with
  | numbered hnumber =>
    exact plain_append.mpr ⟨plain_append.mpr ⟨plain_routeNumberFromRouteId h1 hnumber, by decide⟩, h2⟩
  | identified =>
    exact plain_append.mpr ⟨plain_append.mpr ⟨plain_append.mpr ⟨by decide, h1⟩, by decide⟩, h2⟩
  | prefixed p beon hpre =>
    have hprefixes : ∀ labelPrefix ∈ labelPrefixes, Plain labelPrefix := by decide
    refine plain_append.mpr ⟨plain_append.mpr ⟨hprefixes _ hpre, plain_routeNumberToken p⟩, ?_⟩
    cases beon <;> decide
  | numeric _ => exact plain_append.mpr ⟨plain_routeNumberToken _, by decide⟩

theorem plain_routeDisplayLabel (h : PlainData data) {route : RouteNode} (hr : route ∈ data.routes)
    {n : Nat} {label : Str} (hl : routeDisplayLabel data route n = some label) : Plain label := by
  obtain ⟨h1, h2, -, h4, -⟩ := h.routes route hr
  obtain ⟨base, hbase, text, htext, rfl⟩ := labelText_of_routeDisplayLabel hl
  obtain ⟨name, hname, rfl⟩ := nameText_of_routeDisplayName hbase
  have hshown : Plain (if strIsBlank route.routeName then route.routeNo.val else route.routeName.val) := by
    split <;> assumption
  have hb := (plain_nameText h1 hshown hname).snprintf maxRouteLen
  refine Plain.snprintf ?_ n
  cases htext with
  | name => exact hb
  | bound =>
    exact plain_append.mpr ⟨plain_append.mpr ⟨plain_append.mpr ⟨hb, by decide⟩, plain_findNodeNameById h h4⟩,
      by decide⟩

theorem plain_appendRouteText {routes label : Str} {size : Nat} {arrival : Option ArrivalNode}
    {crowding : Option CrowdingNode} (hr : Plain routes) (hl : Plain label)
    (ha : ∀ a, arrival = some a → Plain a.status) (hc : ∀ c, crowding = some c → Plain c.crowdingLevel) :
    Plain (appendRouteText routes size label arrival crowding) := by
  have hsep : Plain (if routes ≠ [] then (strAppend routes size [44]).1 else routes) := by
    split
    · exact hr.strAppend (by decide) _
    · exact hr
  simp only [appendRouteText]
  split
  · refine Plain.strAppend ?_ (by decide) _
    have hlabel := hsep.strAppendf (plain_append.mpr ⟨hl, (by decide : Plain [40])⟩) size
    cases arrival with
    | none =>
      cases crowding with
      | none => exact hlabel.strAppend (by decide) _
      | some c =>
        exact (hlabel.strAppend (by decide) _).strAppendf (plain_append.mpr ⟨by decide, hc c rfl⟩) _
    | some a =>
      have harr := hlabel.strAppendf (plain_append.mpr ⟨plain_append.mpr
        ⟨plain_fmtInt a.arrivalMinutes, (by decide : Plain (utf8 "분/"))⟩, ha a rfl⟩) size
      cases crowding with
      | none => exact harr
      | some c => exact harr.strAppendf (plain_append.mpr ⟨by decide, hc c rfl⟩) _
  · exact hsep.strAppend hl _

/-! What holds of the route list of a stop: it is so of the empty list and of
`-`, and remains so when a route is written. -/

section

variable {P : Str → Prop} {size : Nat}

theorem appendRouteItem_induction (stopId : Str) (keysSize : Nat) {st : RouteTexts} {route : RouteNode}
    (item : ∀ routes label, routeDisplayLabel data route maxRouteLen = some label →
      ∀ arrival, (∀ a, arrival = some a → a ∈ data.arrivals) →
      ∀ crowding, (∀ c, crowding = some c → c ∈ data.crowdings) →
      P routes → P (appendRouteText routes size label arrival crowding))
    (hst : P st.routes) : P (appendRouteItem data stopId route size keysSize st).1.routes := by
  unfold appendRouteItem
  cases hlabel : routeDisplayLabel data route maxRouteLen with
  | none => exact hst
  | some label =>
    dsimp only
    by_cases hkey : routeKeyExists st.routeKeys label = true
    · rw [if_pos hkey]
      exact hst
    · rw [if_neg hkey]
      split
      · exact hst
      · exact item _ _ hlabel _ (fun a ha => List.mem_of_find?_eq_some ha) _
          (fun c hc => List.mem_of_find?_eq_some hc) hst

variable (item : ∀ routes, ∀ route ∈ data.routes, ∀ label, routeDisplayLabel data route maxRouteLen = some label →
  ∀ arrival, (∀ a, arrival = some a → a ∈ data.arrivals) →
  ∀ crowding, (∀ c, crowding = some c → c ∈ data.crowdings) →
  P routes → P (appendRouteText routes size label arrival crowding))

include item

theorem appendRoutesForStopId_induction (stopId : Str) (keysSize : Nat) {st : RouteTexts × Nat}
    (hst : P st.1.routes) : P (appendRoutesForStopId data stopId size keysSize st).1.routes := by
  refine List.foldlRecOn (motive := fun st : RouteTexts × Nat => P st.1.routes) _ _ hst fun st hst route hr => ?_
  have hitem := appendRouteItem_induction stopId keysSize (fun routes => item routes route hr) hst
  simp only
  split
  · split <;> rename_i hi <;> rw [hi] at hitem <;> exact hitem
  · exact hst

theorem appendRoutesForStop_induction (stop : StopNode D) (empty : P []) (none : P (safeStrcpy size (utf8 "-"))) :
    P (appendRoutesForStop data stop size) := by
  have hend : ∀ st : RouteTexts × Nat, P st.1.routes →
      P (if st.2 = 0 ∨ st.1.routes = [] then safeStrcpy size (utf8 "-") else st.1.routes) := by
    intro st hst
    split
    · exact none
    · exact hst
  have hown := appendRoutesForStopId_induction item stop.stopId stopRoutesTextSize
    (by exact empty : P ((⟨[], []⟩, 0) : RouteTexts × Nat).1.routes)
  simp only [appendRoutesForStop]
  split
  · refine hend _ (List.foldlRecOn (motive := fun st : RouteTexts × Nat => P st.1.routes) _ _ hown
      fun st hst other _ => ?_)
    split
    · exact hst
    · split
      · exact appendRoutesForStopId_induction item other.stopId stopRoutesTextSize hst
      · exact hst
  · exact hend _ hown

end

theorem plain_appendRoutesForStop (h : PlainData data) (stop : StopNode D) (size : Nat) :
    Plain (appendRoutesForStop data stop size) := by
  refine appendRoutesForStop_induction (fun routes route hr label hlabel arrival ha crowding hc hroutes => ?_) stop
    plain_nil (Plain.snprintf (by decide) _)
  exact plain_appendRouteText hroutes (plain_routeDisplayLabel h hr hlabel)
    (fun a he => (h.arrivals a (ha a he)).2.2.1) fun c he => (h.crowdings c (hc c he)).2.2.2

theorem length_appendRouteText_lt {routes : Str} {size : Nat} (h : routes.length < size) (label : Str)
    (arrival : Option ArrivalNode) (crowding : Option CrowdingNode) :
    (appendRouteText routes size label arrival crowding).length < size := by
  have hsep : (if routes ≠ [] then (strAppend routes size [44]).1 else routes).length < size := by
    split
    · exact length_strAppend_lt h
    · exact h
  unfold appendRouteText
  by_cases hnote : (arrival.isSome || crowding.isSome) = true
  · simp only [if_pos hnote]
    refine length_strAppend_lt ?_
    have hlabel := @length_strAppendf_lt size _ (label ++ [40]) hsep
    cases crowding with
    | none =>
      cases arrival with
      | none => exact length_strAppend_lt hlabel
      | some a => exact length_strAppendf_lt hlabel
    | some c =>
      refine length_strAppendf_lt ?_
      cases arrival with
      | none => exact length_strAppend_lt hlabel
      | some a => exact length_strAppendf_lt hlabel
  · simp only [if_neg hnote]
    exact length_strAppend_lt hsep

/-- The buffer of the route list is not overrun. -/
theorem length_appendRoutesForStop_lt (data : AppData D) (stop : StopNode D) {size : Nat} (hs : 0 < size) :
    (appendRoutesForStop data stop size).length < size := by
  refine appendRoutesForStop_induction (P := fun routes => routes.length < size)
    (fun routes route _ label _ arrival _ crowding _ hroutes => ?_) stop hs ?_
  · exact length_appendRouteText_lt hroutes label arrival crowding
  · exact Nat.lt_of_le_of_lt (List.length_take_le ..) (Nat.sub_lt hs Nat.one_pos)

theorem roomy_appendStops (h : PlainData data) {keyword : Str} {stops : List (StopNode D)}
    (hs : ∀ s ∈ stops, Plain s.stopId ∧ Plain s.stopName) {response : Str}
    (hr : Roomy maxPacketSize response) (count : Nat) :
    Roomy maxPacketSize (appendStops data keyword maxPacketSize stops response count).1 := by
  induction stops generalizing response count with
  | nil => exact hr
  | cons cur rest ih =>
    rw [List.forall_mem_cons] at hs
    simp only [appendStops]
    split
    · split
      · exact hr
      · split
        · exact hr
        · rename_i hroom
          refine ih hs.2 (hr.item (by decide) _ ?_ ?_ _).1 _
          · simp only [plain_append, plain_cons, plain_nil]
            exact ⟨⟨⟨⟨hs.1.1, by decide, trivial⟩, hs.1.2⟩, by decide, trivial⟩,
              plain_appendRoutesForStop h cur _⟩
          · simp only [List.length_append, List.length_singleton]; omega
    · exact ih hs.2 hr count

theorem complete_handleStopSearch (h : PlainData data) (keyword : Str) :
    Complete maxPacketSize (handleStopSearch data keyword maxPacketSize).response := by
  simp only [handleStopSearch]
  split
  · exact complete_invalidRequestReply (by decide)
  · split
    · exact complete_notFoundReply (by decide) (by decide)
    · exact (roomy_appendStops h h.stops (roomy_header (by decide) _ (by decide)) 0).complete

/-! ## Favourites and recent searches -/

/-- The three parts of a record lie in it, apart from each other. -/
theorem splitRecord_spec {line type id name : Str} (h : splitRecord line = some (type, id, name)) :
    line = type ++ fieldSep :: (id ++ fieldSep :: name) ∧ fieldSep ∉ type ∧ fieldSep ∉ id := by
  simp only [splitRecord] at h
  split at h
  · cases h
  · rename_i t rest h1
    split at h
    · cases h
    · rename_i i n h2
      cases h
      obtain ⟨e1, n1⟩ := cutAt_eq_some.mp h1
      obtain ⟨e2, n2⟩ := cutAt_eq_some.mp h2
      exact ⟨by rw [e1, e2], n1, n2⟩

theorem plain_splitRecord {line type id name : Str} (hl : Plain line)
    (h : splitRecord line = some (type, id, name)) : Plain type ∧ Plain id ∧ Plain name := by
  rw [(splitRecord_spec h).1, plain_append, plain_cons, plain_append, plain_cons] at hl
  exact ⟨hl.1, hl.2.2.1, hl.2.2.2.2⟩

theorem roomy_appendListItems {rows : List (Str × Str × Str)}
    (h : ∀ row ∈ rows, Plain row.1 ∧ Plain row.2.1 ∧ Plain row.2.2) {response : Str}
    (hr : Roomy maxPacketSize response) (count : Nat) :
    Roomy maxPacketSize (appendListItems maxPacketSize rows response count) := by
  induction rows generalizing response count with
  | nil => exact hr
  | cons row rest ih =>
    rw [List.forall_mem_cons] at h
    simp only [appendListItems]
    split
    · exact hr
    · rename_i hroom
      refine ih h.2 (hr.item (by decide) _ ?_ ?_ _).1 _
      · simp only [listItem, plain_append, plain_cons, plain_nil]
        exact ⟨⟨⟨⟨h.1.1, by decide, trivial⟩, h.1.2.1⟩, by decide, trivial⟩, h.1.2.2⟩
      · simp only [listItem, List.length_append, List.length_singleton]; omega

theorem plain_favoriteRow {file : List Byte} :
    ∀ row ∈ (fgetsAll 1024 file).filterMap favoriteRow, Plain row.1 ∧ Plain row.2.1 ∧ Plain row.2.2 := by
  intro row hrow
  obtain ⟨line, hl, hr⟩ := List.mem_filterMap.mp hrow
  simp only [favoriteRow] at hr
  split at hr
  · cases hr
  · rename_i hsplit
    split at hr
    · cases hr
    · cases hr
      exact plain_splitRecord (plain_of_mem_fgetsAll (by decide) hl).1 hsplit

theorem complete_handleFavoriteList (io : Io) (fs : UserFiles) :
    Complete maxPacketSize (handleFavoriteList io fs maxPacketSize).response := by
  have hheader : Roomy maxPacketSize (snprintf maxPacketSize (header pktFavoriteListRes .ok)) :=
    roomy_header (by decide) _ (by decide)
  simp only [handleFavoriteList]
  split
  · exact hheader.complete
  · exact (roomy_appendListItems plain_favoriteRow hheader 0).complete

/-- What a shifting window holds comes from the records pushed into it. -/
theorem mem_foldl_pushRecord {room : Nat} {lines start : List Str} {l : Str}
    (h : l ∈ lines.foldl (pushRecord room) start) :
    l ∈ start ∨ ∃ line ∈ lines, l = safeStrcpy 1024 line := by
  induction lines generalizing start with
  | nil => exact .inl h
  | cons line lines ih =>
    rcases ih h with h | ⟨line', hm, rfl⟩
    · simp only [pushRecord] at h
      split at h <;> rw [List.mem_append, List.mem_singleton] at h
      · exact h.imp List.mem_of_mem_tail fun h => ⟨line, List.mem_cons_self .., h⟩
      · exact h.imp id fun h => ⟨line, List.mem_cons_self .., h⟩
    · exact .inr ⟨line', List.mem_cons_of_mem _ hm, rfl⟩

theorem plain_recentRow {file : List Byte} :
    ∀ row ∈ (listedRecords file).reverse.filterMap splitRecord,
      Plain row.1 ∧ Plain row.2.1 ∧ Plain row.2.2 := by
  intro row hrow
  obtain ⟨record, hr, hsplit⟩ := List.mem_filterMap.mp hrow
  rw [List.mem_reverse] at hr
  rcases mem_foldl_pushRecord hr with hr | ⟨line, hl, rfl⟩
  · cases hr
  · obtain ⟨raw, hraw, rfl⟩ := List.mem_map.mp (List.mem_filter.mp hl).1
    have hplain : Plain (recentLine raw) := by
      have h := (plain_of_mem_fgetsAll (by decide) hraw).1
      simp only [recentLine]
      split
      · exact h.of_subset (List.drop_subset _ _)
      · exact h
    exact plain_splitRecord (hplain.snprintf _) hsplit

theorem complete_handleRecentList (io : Io) (fs : UserFiles) :
    Complete maxPacketSize (handleRecentList io fs maxPacketSize).response := by
  have hheader : Roomy maxPacketSize (snprintf maxPacketSize (header pktRecentListRes .ok)) :=
    roomy_header (by decide) _ (by decide)
  simp only [handleRecentList]
  split
  · exact hheader.complete
  · exact (roomy_appendListItems plain_recentRow hheader 0).complete

theorem favoriteTypeLabel_spec {type : Str} (h : Plain type) :
    Plain (favoriteTypeLabel type) ∧ (favoriteTypeLabel type).length ≤ type.length + 12 := by
  simp only [favoriteTypeLabel]
  split
  · exact ⟨by decide, Nat.le_trans (by decide : _ ≤ 12) (Nat.le_add_left ..)⟩
  · split
    · exact ⟨by decide, Nat.le_trans (by decide : _ ≤ 12) (Nat.le_add_left ..)⟩
    · split
      · exact ⟨by decide, Nat.le_trans (by decide : _ ≤ 12) (Nat.le_add_left ..)⟩
      · exact ⟨h, Nat.le_add_right ..⟩

theorem normalizeFavoriteType_mem {input type : Str} (h : normalizeFavoriteType input 64 = some type) :
    type ∈ [utf8 "stop", utf8 "bus", utf8 "station"] := by
  have hcopy : ∀ s ∈ [utf8 "stop", utf8 "bus", utf8 "station"], safeStrcpy 64 s = s := by decide
  simp only [normalizeFavoriteType] at h
  split at h
  · cases h
  · split at h
    · cases h; rw [hcopy _ (by decide)]; decide
    · split at h
      · cases h; rw [hcopy _ (by decide)]; decide
      · split at h
        · cases h; rw [hcopy _ (by decide)]; decide
        · cases h

/-- What an accepted addition consists of. -/
structure FavoriteFields (type id name : Str) : Prop where
  type : type ∈ [utf8 "stop", utf8 "bus", utf8 "station"]
  id_blank : strIsBlank id = false
  name_blank : strIsBlank name = false
  id_delim : containsPacketFieldDelim id = false
  name_delim : containsPacketFieldDelim name = false
  id_length : id.length ≤ 127
  name_length : name.length ≤ 255

theorem favoriteAddFields_spec {payload type id name : Str}
    (h : favoriteAddFields payload = some (type, id, name)) : FavoriteFields type id name := by
  simp only [favoriteAddFields, splitThreeFields] at h
  split at h
  · cases h
  · rename_i hsplit
    split at h
    · cases h
    · rename_i hnorm
      split at h
      · cases h
      · rename_i hok
        cases h
        simp only [Bool.or_eq_true, not_or, Bool.not_eq_true] at hok
        split at hsplit
        · cases hsplit
        · split at hsplit
          · cases hsplit
          · cases hsplit
            exact ⟨normalizeFavoriteType_mem hnorm, hok.1.1.1, hok.1.1.2, hok.1.2, hok.2,
              List.length_take_le .., List.length_take_le ..⟩

theorem plain_of_containsPacketFieldDelim {s : Str} (h : containsPacketFieldDelim s = false) : Plain s := by
  intro hm
  simp only [containsPacketFieldDelim, strContainsProtocolDelim, Bool.or_eq_false_iff,
    List.any_eq_false] at h
  have := h.1 packetTerm hm
  simp at this

theorem complete_handleFavoriteAdd (io : Io) (fs : UserFiles) (payload : Str) :
    Complete maxPacketSize (handleFavoriteAdd io data fs payload maxPacketSize).1.response := by
  simp only [handleFavoriteAdd]
  split
  · exact complete_invalidRequestReply (by decide)
  · rename_i type id name hf
    have hfields := favoriteAddFields_spec hf
    have htype : Plain type ∧ type.length ≤ 7 := by
      have hall : ∀ t ∈ [utf8 "stop", utf8 "bus", utf8 "station"], Plain t ∧ t.length ≤ 7 := by decide
      exact hall type hfields.type
    split
    · exact complete_message (by decide) _ (by decide) (by decide)
    · split
      · exact complete_message (by decide) _ (by decide) (by decide)
      · split
        · exact complete_message (by decide) _ (by decide) (by decide)
        · have hlabel := favoriteTypeLabel_spec htype.1
          have hid := hfields.id_length
          have hname := hfields.name_length
          have hsize : maxPacketSize = 32768 := rfl
          have h1 : (utf8 "즐겨찾기를 서버에 저장했습니다: ").length ≤ 60 := by decide
          have h2 : (utf8 " | ").length = 3 := by decide
          refine complete_message (by decide) _ ?_ ?_
          · simp only [plain_append]
            exact ⟨⟨⟨⟨⟨by decide, hlabel.1⟩, by decide⟩,
              plain_of_containsPacketFieldDelim hfields.id_delim⟩, by decide⟩,
              plain_of_containsPacketFieldDelim hfields.name_delim⟩
          · simp only [List.length_append]; omega

theorem mem_deleteLoop {k : Int} {lines : List Str} {n : Int} {l : Str}
    (h : (deleteLoop k lines n).2 = some l) : ∃ line ∈ lines, l = stripNewline line := by
  induction lines generalizing n with
  | nil => cases h
  | cons line lines ih =>
    simp only [deleteLoop] at h
    split at h
    · obtain ⟨line', hm, hl⟩ := ih h
      exact ⟨line', List.mem_cons_of_mem _ hm, hl⟩
    · split at h
      · rcases Option.or_eq_some_iff.mp h with h | ⟨-, h⟩
        · obtain ⟨line', hm, hl⟩ := ih h
          exact ⟨line', List.mem_cons_of_mem _ hm, hl⟩
        · cases h; exact ⟨line, List.mem_cons_self .., rfl⟩
      · obtain ⟨line', hm, hl⟩ := ih h
        exact ⟨line', List.mem_cons_of_mem _ hm, hl⟩

theorem deletedText_spec {line : Str} (h : Plain line) :
    Plain (deletedText line) ∧ (deletedText line).length ≤ line.length + 100 := by
  have hall : ∀ type id name : Str, Plain type → Plain id → Plain name →
      type.length + id.length + name.length ≤ line.length →
      Plain (utf8 "즐겨찾기를 서버에서 삭제했습니다: " ++ favoriteTypeLabel type ++ utf8 " | " ++ id ++
        utf8 " | " ++ name) ∧
      (utf8 "즐겨찾기를 서버에서 삭제했습니다: " ++ favoriteTypeLabel type ++ utf8 " | " ++ id ++
        utf8 " | " ++ name).length ≤ line.length + 100 := by
    intro type id name ht hi hn hlen
    have hlabel := favoriteTypeLabel_spec ht
    have h1 : (utf8 "즐겨찾기를 서버에서 삭제했습니다: ").length ≤ 60 := by decide
    have h2 : (utf8 " | ").length = 3 := by decide
    simp only [plain_append, List.length_append]
    exact ⟨⟨⟨⟨⟨⟨by decide, hlabel.1⟩, by decide⟩, hi⟩, by decide⟩, hn⟩, by omega⟩
  simp only [deletedText]
  split
  · exact ⟨by decide, Nat.le_trans (by decide : _ ≤ 100) (Nat.le_add_left ..)⟩
  · split
    · exact hall line [] [] h plain_nil plain_nil (by simp)
    · rename_i type rest hcut
      obtain ⟨he, -⟩ := cutAt_eq_some.mp hcut
      rw [he, plain_append, plain_cons] at h
      have hlen := congrArg List.length he
      simp only [List.length_append, List.length_cons] at hlen
      split
      · exact hall type rest [] h.1 h.2.2 plain_nil (by simp only [List.length_nil]; omega)
      · rename_i id name hcut2
        obtain ⟨he2, -⟩ := cutAt_eq_some.mp hcut2
        have hrest := h.2.2
        rw [he2, plain_append, plain_cons] at hrest
        have hlen2 := congrArg List.length he2
        simp only [List.length_append, List.length_cons] at hlen2
        exact hall type id name h.1 hrest.1 hrest.2.2 (by omega)

theorem complete_handleFavoriteDelete (io : Io) (fs : UserFiles) (payload : Str) :
    Complete maxPacketSize (handleFavoriteDelete io fs payload maxPacketSize).1.response := by
  simp only [handleFavoriteDelete]
  split
  · exact complete_invalidRequestReply (by decide)
  · split
    · exact complete_invalidRequestReply (by decide)
    · split
      · exact complete_message (by decide) _ (by decide) (by decide)
      · rename_i file _
        split
        · exact complete_message (by decide) _ (by decide) (by decide)
        · split
          · exact complete_message (by decide) _ (by decide) (by decide)
          · rename_i deletedLine hdel
            split
            · exact complete_message (by decide) _ (by decide) (by decide)
            · split
              · exact complete_message (by decide) _ (by decide) (by decide)
              · obtain ⟨line, hm, rfl⟩ := mem_deleteLoop hdel
                obtain ⟨hplain, hlen⟩ := plain_of_mem_fgetsAll (by decide) hm
                obtain ⟨ht, htl⟩ := deletedText_spec hplain
                have hstrip := length_stripNewline_le line
                have hsize : maxPacketSize = 32768 := rfl
                exact complete_message (by decide) _ ht (by omega)

end Transit
