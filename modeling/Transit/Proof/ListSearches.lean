import Transit.Proof.RecordViews
import Transit.Proof.SearchViews
import Transit.Proof.Searching

/-!
# What the searches list

A stop search, a subway search and a facility request are answered with the
first of the records that match: 100 stops at most, and no more than the
response has room for; 20 stations and 10 facilities at most, for which there
is always room.

* `listSearches_first`: the records listed, for any data and any keyword.
-/

namespace Transit

open Framework (cutAt)

variable {α D : Type} {data : AppData D}

/-- The stops that a keyword is about. -/
def StopFound (keyword : Str) (stop : StopNode D) : Prop :=
  keyword <:+: stop.stopName.val ∨ stop.stopId.val = keyword

/-- The stations that a keyword is about. -/
def StationFound (keyword : Str) (cur : StationNode D) : Prop :=
  keyword <:+: cur.stationName.val ∨ keyword <:+: cur.lineNo.val ∨ keyword <:+: cur.transferLines.val ∨
    keyword <:+: cur.address.val ∨ cur.stationId.val = keyword

/-- The facilities of a category at the node that a keyword names. -/
def FacilityFound (data : AppData D) (nodeKeyword category : Str) (cur : FacilityNode D) : Prop :=
  resolveNodeId data nodeKeyword = some cur.nearestNodeId.val ∧
    (strIsBlank category = true ∨ category = utf8 "all" ∨ category <:+: cur.category.val)

instance (keyword : Str) : DecidablePred (StopFound (D := D) keyword) :=
  fun _ => inferInstanceAs (Decidable (_ ∨ _))

instance (keyword : Str) : DecidablePred (StationFound (D := D) keyword) :=
  fun _ => inferInstanceAs (Decidable (_ ∨ _))

instance (nodeKeyword category : Str) : DecidablePred (FacilityFound data nodeKeyword category) :=
  fun _ => inferInstanceAs (Decidable (_ ∧ _))

/-- The response that lists these rows. -/
def listAnswer (packet : Str) (rows : List (List Str)) : Str := header packet .ok ++ listText rows ++ [packetTerm]

/-- A reply that lists the first `k` of the records that match, each as a whole. -/
structure ListsFirst (packet : Str) (records : List α) (isMatch : α → Prop) [DecidablePred isMatch]
    (row : α → List Str) (k : Nat) (reply : Reply) : Prop where
  found : reply.code = .ok ↔ ∃ x ∈ records, isMatch x
  text : reply.code = .ok →
    reply.response = listAnswer packet (((records.filter (isMatch ·)).take k).map row)
  ends : reply.response.getLast? = some packetTerm
  room : reply.response.length < maxPacketSize

/-- As many rows as there may be, and as the response has room for. -/
structure MostRows (packet : Str) (rows : List (List Str)) (limit k : Nat) : Prop where
  bound : k ≤ limit ∧ k ≤ rows.length
  first : 0 < rows.length → 0 < k
  last : k < limit → k < rows.length → maxPacketSize ≤ (listAnswer packet (rows.take (k + 1))).length

/-! ## From the loops to the replies -/

theorem filter_eq_found {p : α → Bool} {q : α → Prop} [DecidablePred q] (h : ∀ x, p x = true ↔ q x)
    (records : List α) : records.filter p = records.filter (q ·) :=
  List.filter_congr fun x _ => Bool.eq_iff_iff.mpr ((h x).trans decide_eq_true_iff.symm)

theorem listsFirst_notFound {packet : Str} (hp : packet ∈ packetTypes) {records : List α} {isMatch : α → Prop}
    [DecidablePred isMatch] {row : α → List Str} {k : Nat} (h : ¬ ∃ x ∈ records, isMatch x) :
    ListsFirst packet records isMatch row k (notFoundReply maxPacketSize packet) := by
  have hreply : Complete maxPacketSize (notFoundReply maxPacketSize packet).response :=
    complete_notFoundReply hp (by decide)
  obtain ⟨⟨body, hbody, -⟩, hlen⟩ := hreply
  refine ⟨⟨fun hok => ?_, fun hex => absurd hex h⟩, fun hok => ?_, ?_, hlen⟩
  · cases hok
  · cases hok
  · rw [hbody]
    exact List.getLast?_concat

/-- The end of a handler that lists. -/
theorem Listing.first {packet : Str} (hp : packet ∈ packetTypes) {records : List α} {isMatch : α → Prop}
    [DecidablePred isMatch] {row : α → List Str} {k : Nat} {st : Str × Nat}
    (h : Listing packet (((records.filter (isMatch ·)).take k).map row) st)
    (hk : 0 < (records.filter (isMatch ·)).length → 0 < k) :
    ListsFirst packet records isMatch row k (if st.2 = 0 then notFoundReply maxPacketSize packet
      else ⟨.ok, (strAppend st.1 maxPacketSize [packetTerm]).1⟩ : Reply) := by
  have hroom := h.room
  have hcount : st.2 = min k (records.filter (isMatch ·)).length := by
    rw [h.text, List.length_map, List.length_take]
  have hfound : (∃ x ∈ records, isMatch x) ↔ 0 < (records.filter (isMatch ·)).length := by
    simp only [List.length_pos_iff_exists_mem, List.mem_filter, decide_eq_true_eq]
  by_cases hnone : st.2 = 0
  · rw [if_pos hnone]
    refine listsFirst_notFound hp fun hex => ?_
    have hpos := hfound.mp hex
    have := hk hpos
    omega
  · have htext : (strAppend st.1 maxPacketSize [packetTerm]).1 =
        listAnswer packet (((records.filter (isMatch ·)).take k).map row) := by
      rw [h.text, strAppend_of_le (by rw [List.length_singleton]; omega)]
      rfl
    rw [if_neg hnone, htext]
    refine ⟨⟨fun _ => hfound.mpr (by omega), fun _ => rfl⟩, fun _ => rfl, List.getLast?_concat, ?_⟩
    unfold listAnswer
    rw [List.length_append, List.length_singleton]
    omega

/-! ## Stops -/

theorem stopMatches_iff {keyword : Str} (h : strIsBlank keyword = false) (stop : StopNode D) :
    stopMatches keyword stop = true ↔ StopFound keyword stop := by
  unfold stopMatches StopFound
  rw [Bool.or_eq_true, keywordMatch_iff h, beq_iff_eq]

/-- The first stop always has room. -/
theorem stopsFull_first (data : AppData D) (stop : StopNode D) :
    stopsFull data (header pktStopSearchRes .ok).length 0 stop = false := by
  have hheader : (header pktStopSearchRes .ok).length ≤ 25 := (header_spec (by decide) .ok).2
  have hid : stop.stopId.val.length ≤ 31 := stop.stopId.2
  have hname : stop.stopName.val.length ≤ 99 := stop.stopName.2
  have hroutes : (appendRoutesForStop data stop stopRoutesTextSize).length < 4096 :=
    length_appendRoutesForStop_lt data stop (by decide)
  have hlimit : ¬ 0 ≥ stopSearchMaxResults := by decide
  have hsize : maxPacketSize = 32768 := rfl
  unfold stopsFull
  rw [Bool.or_eq_false_iff, decide_eq_false_iff_not, decide_eq_false_iff_not]
  exact ⟨hlimit, by omega⟩

/-- Another row behind some. -/
theorem length_listAnswer_take (packet : Str) {rows : List (List Str)} {k : Nat} (hpos : 0 < k) (hk : k < rows.length) :
    (listAnswer packet (rows.take (k + 1))).length =
      (header packet .ok ++ listText (rows.take k)).length + (itemText rows[k]).length + 2 := by
  have hne : rows.take k ≠ [] := List.ne_nil_of_length_pos (by rw [List.length_take]; omega)
  have hne' : rows.take (k + 1) ≠ [] := List.ne_nil_of_length_pos (by rw [List.length_take]; omega)
  have hone := length_listText hne
  have hnext := length_listText hne'
  rw [List.take_succ_eq_append_getElem hk, List.map_append, List.sum_append, List.map_singleton,
    List.sum_singleton, ← hone, ← List.take_succ_eq_append_getElem hk] at hnext
  unfold listAnswer
  simp only [List.length_append, List.length_singleton]
  omega

/-- The stops of a search are as many as there may be and as there is room for. -/
theorem mostRows_stopsListed {keyword : Str} (h : strIsBlank keyword = false) :
    MostRows pktStopSearchRes ((data.stops.filter (StopFound keyword ·)).map (stopRow data)) stopSearchMaxResults
      (stopsListed data keyword).length := by
  have hlisted : stopsListed data keyword <+: data.stops.filter (stopMatches keyword) := listed_first
  have hfull : ∀ used count stop, stopSearchMaxResults ≤ count → stopsFull data used count stop = true :=
    fun used count stop hc => by
      unfold stopsFull
      rw [decide_eq_true hc, Bool.true_or]
  have hlimit : 0 + (stopsListed data keyword).length ≤ stopSearchMaxResults :=
    length_listed_le hfull (Nat.zero_le _)
  have hlast : ∀ stop, (data.stops.filter (stopMatches keyword))[(stopsListed data keyword).length]? = some stop →
      stopsFull data ((header pktStopSearchRes .ok).length +
        (listText ((stopsListed data keyword).map (stopRow data))).length)
        (stopsListed data keyword).length stop = true := by
    intro stop hstop
    have hend := full_of_listed hstop
    rw [itemsFrom_zero, Nat.zero_add] at hend
    exact hend
  rw [filter_eq_found (stopMatches_iff h)] at hlisted hlast
  rw [Nat.zero_add] at hlimit
  have hfirst : 0 < (data.stops.filter (StopFound keyword ·)).length → 0 < (stopsListed data keyword).length := by
    intro hpos
    by_contra hzero
    have hnil : stopsListed data keyword = [] := List.length_eq_zero_iff.mp (by omega)
    rw [hnil] at hlast
    exact Bool.false_ne_true ((stopsFull_first data _).symm.trans (hlast _ (List.getElem?_eq_getElem hpos)))
  refine ⟨⟨hlimit, ?_⟩, fun hpos => ?_, fun hlt hrows => ?_⟩
  · rw [List.length_map]
    exact hlisted.length_le
  · rw [List.length_map] at hpos
    exact hfirst hpos
  · have hk := hrows
    rw [List.length_map] at hk
    have htake := List.prefix_iff_eq_take.mp hlisted
    have hend := hlast _ (List.getElem?_eq_getElem hk)
    unfold stopsFull at hend
    rw [Bool.or_eq_true, decide_eq_true_eq, decide_eq_true_eq, or_iff_right (Nat.not_le_of_lt hlt)] at hend
    rw [length_listAnswer_take _ (hfirst (by omega)) hrows, ← List.map_take, ← htake, List.getElem_map, stopRow,
      itemText_three]
    simp only [List.length_append, List.length_singleton]
    omega

/-! ## Stations and facilities -/

theorem stationMatches_iff {keyword : Str} (h : strIsBlank keyword = false) (cur : StationNode D) :
    stationMatches keyword cur = true ↔ StationFound keyword cur := by
  unfold stationMatches StationFound
  simp only [Bool.or_eq_true, keywordMatch_iff h, beq_iff_eq, or_assoc]

/-- Nothing but the count ends the list of stations. -/
theorem stationsListed_eq {keyword : Str} (h : strIsBlank keyword = false) :
    stationsListed data keyword = (data.stations.filter (StationFound keyword ·)).take 20 := by
  have hheader : (header pktSubwaySearchRes .ok).length ≤ 25 := (header_spec (by decide) .ok).2
  have hfull : ∀ used count (cur : StationNode D), 20 ≤ count → stationsFull used count cur = true :=
    fun used count cur hc => decide_eq_true (.inr hc)
  have htake : stationsListed data keyword = (data.stations.filter (stationMatches keyword)).take (20 - 0) :=
    listed_eq_take (I := fun used count => used ≤ 25 + 361 * count) hfull
      (fun used count hused hcount cur => by
        obtain ⟨hf, -, hnext⟩ := stationFields_fits hused hcount cur
        exact ⟨hf, hnext⟩) (by omega)
  rw [filter_eq_found (stationMatches_iff h)] at htake
  exact htake

theorem facilityMatches_iff {nodeKeyword nodeId : Str} (hnode : resolveNodeId data nodeKeyword = some nodeId)
    (category : Str) (cur : FacilityNode D) :
    facilityMatches nodeId category cur = true ↔ FacilityFound data nodeKeyword category cur := by
  unfold facilityMatches FacilityFound
  rw [Bool.and_eq_true, Bool.or_eq_true, Bool.or_eq_true, beq_iff_eq, beq_iff_eq, or_assoc, hnode, Option.some_inj,
    eq_comm]
  refine and_congr_right fun _ => ?_
  by_cases hblank : strIsBlank category = true
  · simp only [hblank, true_or]
  · rw [keywordMatch_iff (by simpa using hblank)]

/-- The bytes of ten items of at most 381 bytes each. -/
theorem facilityFields_fits {used count : Nat} (hused : used ≤ 25 + 382 * count) (hcount : count < 10)
    (cur : FacilityNode D) : facilitiesFull used count cur = false ∧
      used + (if count > 0 then 1 else 0) + (itemText (facilityFields cur)).length ≤ 25 + 382 * (count + 1) := by
  have hsize : maxPacketSize = 32768 := rfl
  have h1 : cur.name.val.length ≤ 99 := cur.name.2
  have h2 : cur.category.val.length ≤ 49 := cur.category.2
  have h3 : cur.nearestNodeId.val.length ≤ 31 := cur.nearestNodeId.2
  have h4 : cur.address.val.length ≤ 199 := cur.address.2
  have hsmall : (if count > 0 then 1 else 0) ≤ 1 := by split <;> omega
  have hlen := length_facilityFields cur
  unfold facilitiesFull
  rw [decide_eq_false_iff_not, not_or]
  omega

/-- Nothing but the count ends the list of facilities. -/
theorem facilitiesListed_eq {nodeKeyword nodeId : Str} (hnode : resolveNodeId data nodeKeyword = some nodeId)
    (category : Str) : facilitiesListed data nodeId category =
      (data.facilities.filter (FacilityFound data nodeKeyword category ·)).take 10 := by
  have hheader : (header pktFacilityRes .ok).length ≤ 25 := (header_spec (by decide) .ok).2
  have hfull : ∀ used count (cur : FacilityNode D), 10 ≤ count → facilitiesFull used count cur = true :=
    fun used count cur hc => decide_eq_true (.inr hc)
  have htake : facilitiesListed data nodeId category =
      (data.facilities.filter (facilityMatches nodeId category)).take (10 - 0) :=
    listed_eq_take (I := fun used count => used ≤ 25 + 382 * count) hfull
      (fun used count hused hcount cur => facilityFields_fits hused hcount cur) (by omega)
  rw [filter_eq_found (facilityMatches_iff hnode category)] at htake
  exact htake

/-! ## The handlers -/

theorem handleStopSearch_first {keyword : Str} (hblank : strIsBlank keyword = false)
    (hdelim : strContainsProtocolDelim keyword = false) :
    ListsFirst pktStopSearchRes data.stops (StopFound keyword) (stopRow data) (stopsListed data keyword).length
      (handleStopSearch data keyword maxPacketSize) := by
  have hlisted : stopsListed data keyword <+: data.stops.filter (stopMatches keyword) := listed_first
  have hlisting := listing_appendStops data keyword
  rw [filter_eq_found (stopMatches_iff hblank), List.prefix_iff_eq_take] at hlisted
  rw [hlisted] at hlisting
  unfold handleStopSearch
  rw [hblank, hdelim, Bool.or_false, if_neg Bool.false_ne_true]
  refine hlisting.first (by decide) fun hpos => (mostRows_stopsListed hblank).first ?_
  rw [List.length_map]
  exact hpos

theorem handleSubwaySearch_first {keyword : Str} (hblank : strIsBlank keyword = false)
    (hdelim : strContainsProtocolDelim keyword = false) :
    ListsFirst pktSubwaySearchRes data.stations (StationFound keyword) stationFields 20
      (handleSubwaySearch data keyword maxPacketSize) := by
  have hlisting := listing_appendStations data keyword
  unfold subwayRows at hlisting
  rw [stationsListed_eq hblank] at hlisting
  unfold handleSubwaySearch
  rw [hblank, hdelim, Bool.or_false, if_neg Bool.false_ne_true]
  exact hlisting.first (by decide) fun _ => by decide

theorem handleFacility_first {payload nodeKeyword category : Str} (hblank : strIsBlank payload = false)
    (hcut : cutAt itemSep (safeStrcpy 256 payload) = some (nodeKeyword, category)) :
    ListsFirst pktFacilityRes data.facilities (FacilityFound data (strTrim nodeKeyword) (strTrim category))
      facilityFields 10 (handleFacility data payload maxPacketSize) := by
  unfold handleFacility
  rw [hblank, if_neg Bool.false_ne_true, hcut]
  dsimp only
  cases hnode : resolveNodeId data (strTrim nodeKeyword) with
  | none =>
    refine listsFirst_notFound (by decide) ?_
    rintro ⟨cur, -, hcur, -⟩
    rw [hnode] at hcur
    cases hcur
  | some nodeId =>
    have hlisting := listing_appendFacilities data nodeId (strTrim category)
    rw [facilitiesListed_eq hnode] at hlisting
    exact hlisting.first (by decide) fun _ => by decide

/-- Whatever the data, a request that can be answered is answered with records
exactly when some match, and the records are the first of these: for stops as
many as there may be and as fit, at least one; for stations and facilities as
many as there may be. -/
theorem listSearches_first (data : AppData D) :
    (∀ keyword, strIsBlank keyword = false → strContainsProtocolDelim keyword = false →
      (∃ k, MostRows pktStopSearchRes ((data.stops.filter (StopFound keyword ·)).map (stopRow data)) 100 k ∧
        ListsFirst pktStopSearchRes data.stops (StopFound keyword) (stopRow data) k
          (handleStopSearch data keyword maxPacketSize)) ∧
      ListsFirst pktSubwaySearchRes data.stations (StationFound keyword) stationFields 20
        (handleSubwaySearch data keyword maxPacketSize)) ∧
    ∀ payload nodeKeyword category, strIsBlank payload = false →
      cutAt itemSep (safeStrcpy 256 payload) = some (nodeKeyword, category) →
      ListsFirst pktFacilityRes data.facilities (FacilityFound data (strTrim nodeKeyword) (strTrim category))
        facilityFields 10 (handleFacility data payload maxPacketSize) := by
  refine ⟨fun keyword hblank hdelim => ⟨⟨_, mostRows_stopsListed hblank, handleStopSearch_first hblank hdelim⟩,
    handleSubwaySearch_first hblank hdelim⟩, fun payload nodeKeyword category hblank hcut => ?_⟩
  exact handleFacility_first hblank hcut

/-- Files with two stops and two facilities near the first. -/
def twoStopsFiles : CsvFiles :=
  { kioskFiles with
    busStops := some (utf8 "stop_id,stop_name\nS,Old Town\nN,New Town\n")
    facilities := some (utf8 ("facility_id,name,category,nearest_node_id,address\n" ++
      "F,Kiosk,shop,S,Main St\nG,Cafe,food,S,\n")) }

/-- Both stops are in the one answer, and both facilities in the other. -/
theorem listSearches_twoStops :
    (handleStopSearch (loadedData twoStopsFiles : AppData ℚ) (utf8 "Town") maxPacketSize).response =
        utf8 "STOP_SEARCH_RES|0|N:New Town:-;S:Old Town:1번 - Old Town 방면\n" ∧
      (handleFacility (loadedData twoStopsFiles : AppData ℚ) (utf8 "S:all") maxPacketSize).response =
        utf8 "FACILITY_RES|0|Cafe:food:S:;Kiosk:shop:S:Main St\n" := by
  have hsearches := listSearches_first (loadedData twoStopsFiles : AppData ℚ)
  have hcodes : (handleStopSearch (loadedData twoStopsFiles : AppData ℚ) (utf8 "Town") maxPacketSize).code = .ok ∧
      (handleFacility (loadedData twoStopsFiles : AppData ℚ) (utf8 "S:all") maxPacketSize).code = .ok := by
    decide +kernel
  constructor
  · obtain ⟨k, hmost, hlists⟩ := (hsearches.1 (utf8 "Town") (by decide) (by decide)).1
    have hlength : ((loadedData twoStopsFiles : AppData ℚ).stops.filter (StopFound (utf8 "Town") ·)).length = 2 := by
      decide +kernel
    have hshort : ∀ n ≤ 2, (listAnswer pktStopSearchRes (((loadedData twoStopsFiles : AppData ℚ).stops.filter
        (StopFound (utf8 "Town") ·)).map (stopRow (loadedData twoStopsFiles)) |>.take n)).length < 100 := by
      decide +kernel
    -- both are listed, as there is room
    have hboth : k = 2 := by
      have hbound := hmost.bound
      have hlast := hmost.last
      rw [List.length_map, hlength] at hbound hlast
      by_contra hne
      have hroom := hlast (by omega) (by omega)
      have hlen := hshort (k + 1) (by omega)
      have hsize : maxPacketSize = 32768 := rfl
      omega
    rw [hlists.text hcodes.1, hboth]
    decide +kernel
  · rw [((listSearches_first (loadedData twoStopsFiles : AppData ℚ)).2 (utf8 "S:all") (utf8 "S") (utf8 "all")
      (by decide) (by decide)).text hcodes.2]
    decide +kernel

end Transit
