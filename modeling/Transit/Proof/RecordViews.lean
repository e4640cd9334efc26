import Transit.Proof.Framing
import Transit.Proof.LoadedRecords
import Transit.Proof.SearchItems

/-!
# What the client shows of loaded records

The fields of stations, facilities, arrival times and crowding come from the
CSV files, where a quoted field may hold any byte but a line end; the server
writes them between `:` and `;` as they are.

* `recordViews_iff`: the client shows the records the server has listed exactly
  when no field of theirs holds the separator that ends it.
-/

namespace Transit

open Framework

variable {D : Type} {data : AppData D}

/-- A row whose fields do not hold what ends them. -/
structure SeparatorFree (row : List Str) : Prop where
  fields : ∀ f ∈ row.take 3, itemSep ∉ f
  item : ∀ f ∈ row, listSep ∉ f

/-! ## What is written of a record -/

def stationFields (cur : StationNode D) : List Str :=
  [cur.stationId, cur.stationName, cur.lineNo, if cur.transferLines.val ≠ [] then cur.transferLines else [45]]

def facilityFields (cur : FacilityNode D) : List Str :=
  [cur.name, cur.category, cur.nearestNodeId, cur.address]

def arrivalFields (data : AppData D) (arrival : ArrivalNode) : List Str :=
  [arrival.routeNo, findNodeNameById data arrival.nodeId, fmtInt arrival.arrivalMinutes, arrival.status]

def crowdingFields (data : AppData D) (crowding : CrowdingNode) : List Str :=
  [crowding.routeNo, findNodeNameById data crowding.nodeId, crowding.timeSlot, crowding.crowdingLevel]

/-- Where the loop over the stations ends. -/
def stationsFull (used count : Nat) (_ : StationNode D) : Bool := used + 300 ≥ maxPacketSize ∨ count ≥ 20

/-- Where the loop over the facilities ends. -/
def facilitiesFull (used count : Nat) (cur : FacilityNode D) : Bool :=
  used + cur.name.val.length + cur.category.val.length + cur.nearestNodeId.val.length + cur.address.val.length +
    16 ≥ maxPacketSize ∨ count ≥ 10

/-- The stations that a search lists. -/
def stationsListed (data : AppData D) (keyword : Str) : List (StationNode D) :=
  listed (stationMatches keyword) stationsFull stationFields (header pktSubwaySearchRes .ok).length 0 data.stations

/-- The facilities that are listed for a node. -/
def facilitiesListed (data : AppData D) (nodeId category : Str) : List (FacilityNode D) :=
  listed (facilityMatches nodeId category) facilitiesFull facilityFields (header pktFacilityRes .ok).length 0
    data.facilities

/-- The rows of the records that a request asks for. -/
def subwayRows (data : AppData D) (keyword : Str) : List (List Str) := (stationsListed data keyword).map stationFields

def facilityRows (data : AppData D) (payload : Str) : List (List Str) :=
  match cutAt itemSep (safeStrcpy 256 payload) with
  | none => []
  | some (nodeKeyword, category) =>
    match resolveNodeId data (strTrim nodeKeyword) with
    | none => []
    | some nodeId => (facilitiesListed data nodeId (strTrim category)).map facilityFields

def arrivalRows (data : AppData D) (payload : Str) : List (List Str) :=
  match operationFields payload with
  | none => []
  | some (nodeId, routeNo, timeSlot) =>
    ((findArrival data nodeId routeNo timeSlot).map (arrivalFields data)).toList

def crowdingRows (data : AppData D) (payload : Str) : List (List Str) :=
  match operationFields payload with
  | none => []
  | some (nodeId, routeNo, timeSlot) =>
    ((findCrowding data nodeId routeNo timeSlot).map (crowdingFields data)).toList

/-! ## The loops -/

theorem length_stationFields (cur : StationNode D) : (itemText (stationFields cur)).length ≤ 359 := by
  have h1 : cur.stationId.val.length ≤ 31 := cur.stationId.2
  have h2 : cur.stationName.val.length ≤ 99 := cur.stationName.2
  have h3 : cur.lineNo.val.length ≤ 127 := cur.lineNo.2
  have h4 : (if cur.transferLines.val ≠ [] then cur.transferLines.val else [45]).length ≤ 99 := by
    split
    · exact cur.transferLines.2
    · decide
  rw [stationFields, itemText_four]
  simp only [List.length_append, List.length_singleton]
  omega

theorem length_facilityFields (cur : FacilityNode D) : (itemText (facilityFields cur)).length =
    cur.name.val.length + cur.category.val.length + cur.nearestNodeId.val.length + cur.address.val.length + 3 := by
  rw [facilityFields, itemText_four]
  simp only [List.length_append, List.length_singleton]
  omega

theorem itemLoop_appendStations (keyword : Str) :
    ItemLoop (stationMatches keyword) (stationsFull (D := D)) stationFields maxPacketSize
      (appendStations keyword maxPacketSize) where
  nil _ _ := rfl
  cons cur rest response count := by
    rw [appendStations, stationFields, itemText_four]
    unfold stationsFull
    simp only [decide_eq_true_eq]

theorem itemLoop_appendFacilities (nodeId category : Str) :
    ItemLoop (facilityMatches nodeId category) (facilitiesFull (D := D)) facilityFields maxPacketSize
      (appendFacilities maxPacketSize nodeId category) where
  nil _ _ := rfl
  cons cur rest response count := by
    rw [appendFacilities, facilityFields, itemText_four]
    unfold facilitiesFull
    simp only [decide_eq_true_eq]
    rfl

/-- The bytes of twenty items of at most 360 bytes each. -/
theorem stationFields_fits {used count : Nat} (hused : used ≤ 25 + 361 * count) (hcount : count < 20)
    (cur : StationNode D) : stationsFull used count cur = false ∧
      used + (itemText (stationFields cur)).length + 3 ≤ maxPacketSize ∧
      used + (if count > 0 then 1 else 0) + (itemText (stationFields cur)).length ≤ 25 + 361 * (count + 1) := by
  have hsize : maxPacketSize = 32768 := rfl
  have hlen := length_stationFields cur
  have hsmall : (if count > 0 then 1 else 0) ≤ 1 := by split <;> omega
  unfold stationsFull
  rw [decide_eq_false_iff_not, not_or]
  omega

theorem listing_appendStations (data : AppData D) (keyword : Str) :
    Listing pktSubwaySearchRes (subwayRows data keyword)
      (appendStations keyword maxPacketSize data.stations
        (snprintf maxPacketSize (header pktSubwaySearchRes .ok)) 0) := by
  have hsize : maxPacketSize = 32768 := rfl
  have hheader : (header pktSubwaySearchRes .ok).length ≤ 25 := (header_spec (by decide) .ok).2
  refine (itemLoop_appendStations keyword).listing (by decide : pktSubwaySearchRes ∈ packetTypes) data.stations
    (I := fun used count => used ≤ 25 + 361 * count ∧ count ≤ 20)
    (fun used count h => by omega) (fun used count hI cur _ hfull => ?_) ⟨hheader, by decide⟩
  have hcount : count < 20 := by
    unfold stationsFull at hfull
    rw [decide_eq_false_iff_not, not_or] at hfull
    omega
  obtain ⟨-, hroom, hnext⟩ := stationFields_fits hI.1 hcount cur
  exact ⟨hroom, hnext, hcount⟩

theorem handleSubwaySearch_ok {keyword : Str} (h : (handleSubwaySearch data keyword maxPacketSize).code = .ok) :
    Lists pktSubwaySearchRes (subwayRows data keyword) (handleSubwaySearch data keyword maxPacketSize).response := by
  unfold handleSubwaySearch at h ⊢
  by_cases hkey : (strIsBlank keyword || strContainsProtocolDelim keyword) = true
  · rw [if_pos hkey] at h
    cases h
  · rw [if_neg hkey] at h ⊢
    exact (listing_appendStations data keyword).lists h

theorem listing_appendFacilities (data : AppData D) (nodeId category : Str) :
    Listing pktFacilityRes ((facilitiesListed data nodeId category).map facilityFields)
      (appendFacilities maxPacketSize nodeId category data.facilities
        (snprintf maxPacketSize (header pktFacilityRes .ok)) 0) := by
  have hsize : maxPacketSize = 32768 := rfl
  have hheader : (header pktFacilityRes .ok).length ≤ 25 := (header_spec (by decide) .ok).2
  refine (itemLoop_appendFacilities (D := D) nodeId category).listing (by decide : pktFacilityRes ∈ packetTypes)
    data.facilities (I := fun used _ => used + 2 ≤ maxPacketSize)
    (fun _ _ h => h) (fun used count _ cur _ hfull => ?_) (by omega)
  have hlen := length_facilityFields cur
  have hsmall : (if count > 0 then 1 else 0) ≤ 1 := by split <;> omega
  unfold facilitiesFull at hfull
  rw [decide_eq_false_iff_not, not_or] at hfull
  omega

theorem handleFacility_ok {payload : Str} (h : (handleFacility data payload maxPacketSize).code = .ok) :
    Lists pktFacilityRes (facilityRows data payload) (handleFacility data payload maxPacketSize).response := by
  unfold handleFacility at h ⊢
  unfold facilityRows
  by_cases hblank : strIsBlank payload = true
  · rw [if_pos hblank] at h
    cases h
  · rw [if_neg hblank] at h ⊢
    cases hcut : cutAt itemSep (safeStrcpy 256 payload) with
    | none =>
      rw [hcut] at h
      cases h
    | some texts =>
      rw [hcut] at h
      dsimp only at h ⊢
      cases hnode : resolveNodeId data (strTrim texts.1) with
      | none =>
        rw [hnode] at h
        cases h
      | some nodeId =>
        rw [hnode] at h
        exact (listing_appendFacilities data nodeId (strTrim texts.2)).lists h

/-- A single item in one message. -/
theorem message_lists {packet : Str} (hp : packet ∈ packetTypes) {row : List Str}
    (hlen : (itemText row).length ≤ 1023) :
    Lists packet [row] (message maxPacketSize packet .ok (itemText row)).response := by
  have hsize : maxPacketSize = 32768 := rfl
  have hheader := (header_spec hp .ok).2
  have htext : listText [row] = itemText row := List.intercalate_singleton ..
  have hroom : (header packet .ok ++ listText [row]).length + 2 ≤ maxPacketSize := by
    rw [htext, List.length_append]
    omega
  refine ⟨?_, hroom⟩
  rw [htext] at hroom ⊢
  exact snprintf_of_le (by rw [List.length_append, List.length_singleton]; omega)

/-! ## What the loader makes sure of -/

/-- What ends an item is not a line end; the minutes are an `int`. -/
structure LoadedRows (data : AppData D) : Prop where
  stations : ∀ cur ∈ data.stations, stripNewline cur.transferLines = cur.transferLines
  facilities : ∀ cur ∈ data.facilities, stripNewline cur.address = cur.address
  arrivals : ∀ arrival ∈ data.arrivals, stripNewline arrival.status = arrival.status ∧ IsInt32 arrival.arrivalMinutes
  crowdings : ∀ crowding ∈ data.crowdings, stripNewline crowding.crowdingLevel = crowding.crowdingLevel

theorem not_mem_column {b : Byte} {line : Str} (hb : b = 10 ∨ b = 13 ∨ b ∉ line) (header : CsvRow) (name : Str) :
    b ∉ column header (csvParseLine line) name := by
  unfold column csvGet
  split
  · exact List.not_mem_nil
  · cases hg : (csvParseLine line).fields[(csvFindHeader header name).toNat]? with
    | none => exact List.not_mem_nil
    | some f =>
      exact not_mem_csvLoop hb (List.forall_mem_nil _) List.not_mem_nil f (List.mem_of_getElem? hg)

/-- A copy of a column does not end in a line end. -/
theorem stripNewline_copy_column (n : Nat) (header : CsvRow) (line name : Str) :
    stripNewline (CStr.copy n (column header (csvParseLine line) name)).val =
      (CStr.copy n (column header (csvParseLine line) name)).val := by
  have hfree : ∀ b : Byte, b = 10 ∨ b = 13 → b ∉ (CStr.copy n (column header (csvParseLine line) name)).val :=
    fun b hb hm => not_mem_column (hb.imp_right .inl) header name (List.mem_of_mem_take hm)
  exact stripNewline_of_free (hfree _ (.inl rfl)) (hfree _ (.inr rfl))

theorem loadedRows [CDouble D] (files : CsvFiles) : LoadedRows (loadedData files : AppData D) := by
  obtain ⟨g, hdata⟩ := dataLoaderLoad_records (D := D) files
  unfold loadedData
  rw [hdata]
  refine ⟨fun cur hcur => ?_, fun cur hcur => ?_, fun arrival harrival => ?_, fun crowding hcrowding => ?_⟩
  · rcases mem_foldl_addNew _ hcur with hcur | hcur
    · cases hcur
    · obtain ⟨header, line, hline⟩ := line_of_mem_csvRecords hcur
      unfold subwayStationOf at hline
      dsimp only at hline
      split at hline
      · cases hline
      · cases hline
        exact stripNewline_copy_column ..
  · obtain ⟨header, line, hline⟩ := line_of_mem_csvRecords (List.mem_reverse.mp hcur)
    unfold facilityOf at hline
    dsimp only at hline
    split at hline
    · cases hline
    · cases hline
      exact stripNewline_copy_column ..
  · obtain ⟨header, line, hline⟩ := line_of_mem_csvRecords (List.mem_reverse.mp harrival)
    cases hline
    exact ⟨stripNewline_copy_column .., isInt32_parseIntOrZero _⟩
  · obtain ⟨header, line, hline⟩ := line_of_mem_csvRecords (List.mem_reverse.mp hcrowding)
    cases hline
    exact stripNewline_copy_column ..

/-! ## Rows of records -/

/-- A row as it is made of a loaded record. -/
structure RecordRow (row : List Str) : Prop where
  count : row.length = 4
  fits : (itemText row).length ≤ 1023
  ends : stripNewline (itemText row) = itemText row

theorem itemText_four_ends (a b c : Str) {d : Str} (h : stripNewline d = d) :
    stripNewline (itemText [a, b, c, d]) = itemText [a, b, c, d] := by
  have hpre : stripNewline (a ++ [itemSep] ++ b ++ [itemSep] ++ c ++ [itemSep]) =
      a ++ [itemSep] ++ b ++ [itemSep] ++ c ++ [itemSep] := by
    rw [stripNewline_eq_self_iff, List.getLast?_concat]
    intro x hx
    cases hx
    decide
  rw [itemText_four, stripNewline_append_right hpre, h]

theorem recordRow_station (h : LoadedRows data) {cur : StationNode D} (hcur : cur ∈ data.stations) :
    RecordRow (stationFields cur) where
  count := rfl
  fits := Nat.le_trans (length_stationFields cur) (by decide)
  ends := by
    refine itemText_four_ends _ _ _ ?_
    split
    · exact h.stations cur hcur
    · decide

theorem recordRow_facility (h : LoadedRows data) {cur : FacilityNode D} (hcur : cur ∈ data.facilities) :
    RecordRow (facilityFields cur) where
  count := rfl
  fits := by
    have h1 : cur.name.val.length ≤ 99 := cur.name.2
    have h2 : cur.category.val.length ≤ 49 := cur.category.2
    have h3 : cur.nearestNodeId.val.length ≤ 31 := cur.nearestNodeId.2
    have h4 : cur.address.val.length ≤ 199 := cur.address.2
    rw [length_facilityFields]
    omega
  ends := itemText_four_ends _ _ _ (h.facilities cur hcur)

theorem recordRow_arrival (h : LoadedRows data) {arrival : ArrivalNode} (ha : arrival ∈ data.arrivals) :
    RecordRow (arrivalFields data arrival) where
  count := rfl
  fits := by
    have h1 : arrival.routeNo.val.length ≤ 127 := arrival.routeNo.2
    have h2 := length_findNodeNameById data arrival.nodeId
    have h3 := length_fmtInt (h.arrivals arrival ha).2
    have h4 : arrival.status.val.length ≤ 49 := arrival.status.2
    rw [arrivalFields, itemText_four]
    simp only [List.length_append, List.length_singleton]
    omega
  ends := itemText_four_ends _ _ _ (h.arrivals arrival ha).1

theorem recordRow_crowding (h : LoadedRows data) {crowding : CrowdingNode} (hc : crowding ∈ data.crowdings) :
    RecordRow (crowdingFields data crowding) where
  count := rfl
  fits := by
    have h1 : crowding.routeNo.val.length ≤ 127 := crowding.routeNo.2
    have h2 := length_findNodeNameById data crowding.nodeId
    have h3 : crowding.timeSlot.val.length ≤ 31 := crowding.timeSlot.2
    have h4 : crowding.crowdingLevel.val.length ≤ 49 := crowding.crowdingLevel.2
    rw [crowdingFields, itemText_four]
    simp only [List.length_append, List.length_singleton]
    omega
  ends := itemText_four_ends _ _ _ (h.crowdings crowding hc)

theorem RecordRow.ne_nil {row : List Str} (h : RecordRow row) : itemText row ≠ [] := by
  obtain ⟨a, b, c, d, rfl⟩ := List.length_eq_four.mp h.count
  rw [itemText_four]
  simp

theorem stripNewline_listText {rows : List (List Str)} (h : ∀ row ∈ rows, RecordRow row) :
    stripNewline (listText rows) = listText rows := by
  induction rows with
  | nil => rfl
  | cons row rows ih =>
    rw [List.forall_mem_cons] at h
    unfold listText at ih ⊢
    cases rows with
    | nil =>
      rw [List.map_singleton, List.intercalate_singleton]
      exact h.1.ends
    | cons row' rows =>
      rw [List.map_cons, List.map_cons, List.intercalate_cons_cons]
      refine stripNewline_append (ih h.2) ?_
      rw [intercalate_cons_eq_flatMap]
      exact List.append_ne_nil_of_left_ne_nil (h.2 row' (List.mem_cons_self ..)).ne_nil _

/-- The client shows rows of records exactly when their fields do not hold what
ends them. -/
theorem shownItems_records_iff {packet : Str} (hp : packet ∈ packetTypes) {rows : List (List Str)} {response : Str}
    (h : Lists packet rows response) (hrows : ∀ row ∈ rows, RecordRow row) :
    shownItems 4 response = rows ↔ ∀ row ∈ rows, SeparatorFree row := by
  rw [h.text, shownItems_eq_iff hp (by decide) (fun row hrow => ⟨(hrows row hrow).count, by decide⟩) h.room]
  constructor
  · rintro ⟨hclean, -⟩ row hrow
    exact ⟨(hclean row hrow).fields, (hclean row hrow).item⟩
  · intro hfree
    refine ⟨fun row hrow => ?_, stripNewline_listText hrows⟩
    exact ⟨(hfree row hrow).fields, (hfree row hrow).item, (hrows row hrow).fits⟩

theorem handleArrival_ok (h : LoadedRows data) {payload : Str}
    (hok : (handleArrival data payload maxPacketSize).code = .ok) :
    Lists pktArrivalRes (arrivalRows data payload) (handleArrival data payload maxPacketSize).response := by
  unfold handleArrival at hok ⊢
  unfold arrivalRows
  cases hfields : operationFields payload with
  | none =>
    rw [hfields] at hok
    cases hok
  | some fields =>
    rw [hfields] at hok
    dsimp only at hok ⊢
    cases hfind : findArrival data fields.1 fields.2.1 fields.2.2 with
    | none =>
      rw [hfind] at hok
      cases hok
    | some arrival =>
      have hrow := recordRow_arrival h (List.mem_of_find?_eq_some hfind)
      have hlists := message_lists (by decide : pktArrivalRes ∈ packetTypes) hrow.fits
      rw [arrivalFields, itemText_four] at hlists
      exact hlists

theorem handleCrowding_ok (h : LoadedRows data) {payload : Str}
    (hok : (handleCrowding data payload maxPacketSize).code = .ok) :
    Lists pktCrowdingRes (crowdingRows data payload) (handleCrowding data payload maxPacketSize).response := by
  unfold handleCrowding at hok ⊢
  unfold crowdingRows
  cases hfields : operationFields payload with
  | none =>
    rw [hfields] at hok
    cases hok
  | some fields =>
    rw [hfields] at hok
    dsimp only at hok ⊢
    cases hfind : findCrowding data fields.1 fields.2.1 fields.2.2 with
    | none =>
      rw [hfind] at hok
      cases hok
    | some crowding =>
      have hrow := recordRow_crowding h (List.mem_of_find?_eq_some hfind)
      have hlists := message_lists (by decide : pktCrowdingRes ∈ packetTypes) hrow.fits
      rw [crowdingFields, itemText_four] at hlists
      exact hlists

/-! ## From the request on -/

/-- The rows of the records that the answer to a request lists. -/
def requestRows (data : AppData D) (request : List Byte) : List (List Str) :=
  let (type, body) := splitRequest request
  if type = pktSubwaySearchReq then subwayRows data body
  else if type = pktFacilityReq then facilityRows data body
  else if type = pktArrivalReq then arrivalRows data body
  else if type = pktCrowdingReq then crowdingRows data body
  else []

theorem recordRow_requestRows (h : LoadedRows data) (request : List Byte) :
    ∀ row ∈ requestRows data request, RecordRow row := by
  intro row hrow
  unfold requestRows at hrow
  dsimp only at hrow
  split at hrow
  · obtain ⟨cur, hcur, rfl⟩ := List.mem_map.mp hrow
    exact recordRow_station h (listed_subset cur hcur)
  split at hrow
  · unfold facilityRows at hrow
    split at hrow
    · cases hrow
    · split at hrow
      · cases hrow
      · obtain ⟨cur, hcur, rfl⟩ := List.mem_map.mp hrow
        exact recordRow_facility h (listed_subset cur hcur)
  split at hrow
  · unfold arrivalRows at hrow
    split at hrow
    · cases hrow
    · rw [Option.mem_toList, Option.map_eq_some_iff] at hrow
      obtain ⟨arrival, harrival, rfl⟩ := hrow
      exact recordRow_arrival h (List.mem_of_find?_eq_some harrival)
  split at hrow
  · unfold crowdingRows at hrow
    split at hrow
    · cases hrow
    · rw [Option.mem_toList, Option.map_eq_some_iff] at hrow
      obtain ⟨crowding, hcrowding, rfl⟩ := hrow
      exact recordRow_crowding h (List.mem_of_find?_eq_some hcrowding)
  · cases hrow

/-- The requests that are answered with records of the CSV files. -/
def recordRequests : List Str := [pktSubwaySearchReq, pktFacilityReq, pktArrivalReq, pktCrowdingReq]

section

variable [CDouble D]

/-- The answer lists the rows of the request. -/
theorem routeRequest_lists (h : LoadedRows data) {env : Env} {fs : UserFiles} {request : List Byte}
    (htype : (splitRequest request).1 ∈ recordRequests)
    (hok : (routeRequest data env fs request maxPacketSize).1.code = .ok) :
    ∃ packet ∈ packetTypes,
      Lists packet (requestRows data request) (routeRequest data env fs request maxPacketSize).1.response := by
  unfold routeRequest at hok ⊢
  unfold requestRows
  dsimp only at hok ⊢
  generalize splitRequest request = parts at htype hok ⊢
  obtain ⟨type, body⟩ := parts
  dsimp only at htype hok ⊢
  simp only [recordRequests, List.mem_cons, List.not_mem_nil, or_false] at htype
  rcases htype with rfl | rfl | rfl | rfl
  · exact ⟨pktSubwaySearchRes, by decide, handleSubwaySearch_ok hok⟩
  · exact ⟨pktFacilityRes, by decide, handleFacility_ok hok⟩
  · exact ⟨pktArrivalRes, by decide, handleArrival_ok h hok⟩
  · exact ⟨pktCrowdingRes, by decide, handleCrowding_ok h hok⟩

/-- Whatever the CSV files hold, the client shows the records that the server
lists, each with its own fields, exactly when none of these fields holds the
separator that ends it. -/
theorem recordViews_iff (files : CsvFiles) (env : Env) (fs : UserFiles) (request : List Byte)
    (htype : (splitRequest request).1 ∈ recordRequests)
    (hok : (routeRequest (loadedData files : AppData D) env fs request maxPacketSize).1.code = .ok) :
    shownItems 4 (routeRequest (loadedData files : AppData D) env fs request maxPacketSize).1.response =
        requestRows (loadedData files : AppData D) request ↔
      ∀ row ∈ requestRows (loadedData files : AppData D) request, SeparatorFree row := by
  have hrows := loadedRows (D := D) files
  obtain ⟨packet, hpacket, hlists⟩ := routeRequest_lists hrows htype hok
  exact shownItems_records_iff hpacket hlists (recordRow_requestRows hrows request)

end

/-- Files that load, with a facility whose name has a `:` in it. -/
def kioskFiles : CsvFiles where
  busStops := some (utf8 "stop_id,stop_name\nS,S\n")
  busRoutes := some (utf8 "route_no,start_stop_id,end_stop_id\n1,S,S\n")
  routeStops := some (utf8 "route_no,seq,stop_id\n1,1,S\n")
  subwayStations := some (utf8 "station_id,station_name,line_no\nT,T,2\n")
  subwayDistances := some (utf8 "from_station_id,to_station_id,distance_km,estimated_minutes\nT,T,,2\n")
  facilities := some (utf8 "facility_id,name,category,nearest_node_id,address\nF,Kiosk 9:00,shop,S,Main St\n")
  arrivalTest := some (utf8 "route_no,node_id,time_slot,arrival_minutes,status\n")
  crowdingTest := some (utf8 "route_no,node_id,time_slot,crowding_level\n")

/-- Files with two stations, of which one is named in the other's name. -/
def twoStationsFiles : CsvFiles :=
  { kioskFiles with subwayStations := some (utf8 "station_id,station_name,line_no\nT,Town,2\nU,Old Town,\"1,2\"\n") }

/-- Both stations are shown as they were loaded. -/
theorem recordViews_stations :
    shownItems 4 (routeRequest (loadedData twoStationsFiles : AppData ℚ) ⟨.allOk, true, []⟩ ⟨none, none, none, none⟩
        (utf8 "SUBWAY_SEARCH_REQ|Town\n") maxPacketSize).1.response =
      [[utf8 "U", utf8 "Old Town", utf8 "1,2", utf8 "-"], [utf8 "T", utf8 "Town", utf8 "2", utf8 "-"]] := by
  have hrows : requestRows (loadedData twoStationsFiles : AppData ℚ) (utf8 "SUBWAY_SEARCH_REQ|Town\n") =
      [[utf8 "U", utf8 "Old Town", utf8 "1,2", utf8 "-"], [utf8 "T", utf8 "Town", utf8 "2", utf8 "-"]] := by
    decide +kernel
  have hview := recordViews_iff (D := ℚ) twoStationsFiles ⟨.allOk, true, []⟩ ⟨none, none, none, none⟩
    (utf8 "SUBWAY_SEARCH_REQ|Town\n") (by decide) (by decide +kernel)
  rw [hrows] at hview
  refine hview.mpr (List.forall_mem_cons.mpr ⟨⟨by decide, by decide⟩, List.forall_mem_singleton.mpr ?_⟩)
  exact ⟨by decide, by decide⟩

/-- The facility is shown with the wrong fields. -/
theorem recordViews_kiosk :
    (dataLoaderLoad kioskFiles : AppData ℚ × Bool).2 = true ∧
    (routeRequest (loadedData kioskFiles : AppData ℚ) ⟨.allOk, true, []⟩ ⟨none, none, none, none⟩
      (utf8 "FACILITY_REQ|S:all\n") maxPacketSize).1.code = .ok ∧
    requestRows (loadedData kioskFiles : AppData ℚ) (utf8 "FACILITY_REQ|S:all\n") =
      [[utf8 "Kiosk 9:00", utf8 "shop", utf8 "S", utf8 "Main St"]] ∧
    shownItems 4 (routeRequest (loadedData kioskFiles : AppData ℚ) ⟨.allOk, true, []⟩ ⟨none, none, none, none⟩
        (utf8 "FACILITY_REQ|S:all\n") maxPacketSize).1.response =
      [[utf8 "Kiosk 9", utf8 "00", utf8 "shop", utf8 "S:Main St"]] := by
  decide +kernel

end Transit
