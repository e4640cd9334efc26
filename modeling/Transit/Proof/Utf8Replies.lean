import Transit.Proof.RecordViews
import Transit.Proof.RouteViews
import Transit.Proof.TransferDecode
import Transit.Proof.Utf8Labels

/-!
# The answers made from a store of UTF-8

Beside the labels and route lists, only the answer to a path request is cut, to
32767 bytes; every other text of an answer is written whole.

* `utf8Kept_iff`: the texts of the store, the labels of its routes and the
  answers made from it are all `Utf8` exactly when no cut falls within a
  character.
-/

namespace Transit

open Framework

variable {D : Type} {data : AppData D}

/-! ## Headers -/

theorem utf8_header {packet : Str} (hp : packet ∈ packetTypes) (code : ErrorCode) : Utf8 (header packet code) :=
  textProperty_utf8.header hp code

/-- A response in one `snprintf` that has room for it. -/
theorem utf8_message {packet : Str} (hp : packet ∈ packetTypes) (code : ErrorCode) {text : Str} (h : Utf8 text)
    (hlen : text.length ≤ 1023) : Utf8 (message maxPacketSize packet code text).response := by
  have hheader := (header_spec hp code).2
  have hsize : maxPacketSize = 32768 := rfl
  unfold message
  rw [snprintf_of_le (by simp only [List.length_append, List.length_singleton]; omega)]
  exact ((utf8_header hp code).append h).append (utf8_singleton (by decide))

theorem utf8_notFound {packet : Str} (hp : packet ∈ packetTypes) :
    Utf8 (notFoundReply maxPacketSize packet).response := utf8_message hp _ utf8_nil (by decide)

theorem utf8_invalidRequest : Utf8 (invalidRequestReply maxPacketSize).response := by
  have hresponse : (invalidRequestReply maxPacketSize).response = utf8 "ERROR|2:INVALID_REQUEST\n" :=
    snprintf_of_le (by decide)
  rw [hresponse]
  exact utf8_literal _

/-! ## Rows -/

theorem utf8_itemText_iff (row : List Str) : Utf8 (itemText row) ↔ Utf8Texts row :=
  utf8_intercalate_iff (by decide) row

theorem utf8_listText_iff (rows : List (List Str)) : Utf8 (listText rows) ↔ ∀ row ∈ rows, Utf8Texts row := by
  unfold listText
  rw [utf8_intercalate_iff (by decide), List.forall_mem_map]
  exact forall₂_congr fun row _ => utf8_itemText_iff row

/-- A response that lists rows. -/
theorem Listing.utf8_iff {packet : Str} (hp : packet ∈ packetTypes) {rows : List (List Str)} {st : Str × Nat}
    (h : Listing packet rows st) :
    Utf8 (if st.2 = 0 then notFoundReply maxPacketSize packet
      else ⟨.ok, (strAppend st.1 maxPacketSize [packetTerm]).1⟩ : Reply).response ↔ ∀ row ∈ rows, Utf8Texts row := by
  have hroom := h.room
  by_cases hnone : st.2 = 0
  · have hrows : rows = [] := by
      rw [h.text] at hnone
      exact List.eq_nil_of_length_eq_zero hnone
    rw [if_pos hnone, hrows]
    exact iff_of_true (utf8_notFound hp) (List.forall_mem_nil _)
  · rw [if_neg hnone, ← utf8_listText_iff, h.text,
      strAppend_of_le (by rw [List.length_singleton]; omega)]
    dsimp only
    rw [utf8_append_cons (by decide), (utf8_header hp .ok).append_iff]
    exact and_iff_left utf8_nil

/-! ## Records -/

theorem utf8_handleSubwaySearch (h : Utf8Records data) (keyword : Str) :
    Utf8 (handleSubwaySearch data keyword maxPacketSize).response := by
  unfold handleSubwaySearch
  split
  · exact utf8_invalidRequest
  · refine ((listing_appendStations data keyword).utf8_iff (by decide)).mpr (List.forall_mem_map.mpr fun cur hcur => ?_)
    have htexts := h.stations cur (listed_subset cur hcur)
    simp only [StationNode.texts, utf8Texts_cons] at htexts
    obtain ⟨hid, hname, hline, -, htransfer, -⟩ := htexts
    simp only [stationFields, utf8Texts_cons, utf8Texts_nil, and_true]
    refine ⟨hid, hname, hline, ?_⟩
    split
    · exact htransfer
    · exact utf8_singleton (by decide)

theorem utf8_handleFacility (h : Utf8Records data) (payload : Str) :
    Utf8 (handleFacility data payload maxPacketSize).response := by
  unfold handleFacility
  split
  · exact utf8_invalidRequest
  split
  · exact utf8_invalidRequest
  · rename_i nodeKeyword category hcut
    split
    · exact utf8_notFound (by decide)
    · rename_i nodeId hnode
      refine ((listing_appendFacilities data nodeId (strTrim category)).utf8_iff (by decide)).mpr
        (List.forall_mem_map.mpr fun cur hcur => ?_)
      have htexts := h.facilities cur (listed_subset cur hcur)
      simp only [FacilityNode.texts, utf8Texts_cons] at htexts
      obtain ⟨-, hname, hcategory, hnearest, haddress, -⟩ := htexts
      simp only [facilityFields, utf8Texts_cons, utf8Texts_nil, and_true]
      exact ⟨hname, hcategory, hnearest, haddress⟩

theorem utf8_handleArrival (h : Utf8Records data) (hrows : LoadedRows data) (payload : Str) :
    Utf8 (handleArrival data payload maxPacketSize).response := by
  unfold handleArrival
  split
  · exact utf8_invalidRequest
  split
  · exact utf8_notFound (by decide)
  · rename_i arrival hfind
    have harrival := List.mem_of_find?_eq_some hfind
    have htexts := h.arrivals arrival harrival
    simp only [ArrivalNode.texts, utf8Texts_cons] at htexts
    obtain ⟨hno, hnode, -, hstatus, -⟩ := htexts
    have hrow : Utf8 (itemText (arrivalFields data arrival)) := by
      simp only [utf8_itemText_iff, arrivalFields, utf8Texts_cons, utf8Texts_nil, and_true]
      exact ⟨hno, h.nodeTexts.findNodeNameById hnode, utf8_fmtInt _, hstatus⟩
    have hfits := (recordRow_arrival hrows harrival).fits
    rw [arrivalFields, itemText_four] at hrow hfits
    exact utf8_message (by decide) .ok hrow hfits

theorem utf8_handleCrowding (h : Utf8Records data) (hrows : LoadedRows data) (payload : Str) :
    Utf8 (handleCrowding data payload maxPacketSize).response := by
  unfold handleCrowding
  split
  · exact utf8_invalidRequest
  split
  · exact utf8_notFound (by decide)
  · rename_i crowding hfind
    have hcrowding := List.mem_of_find?_eq_some hfind
    have htexts := h.crowdings crowding hcrowding
    simp only [CrowdingNode.texts, utf8Texts_cons] at htexts
    obtain ⟨hno, hnode, hslot, hlevel, -⟩ := htexts
    have hrow : Utf8 (itemText (crowdingFields data crowding)) := by
      simp only [utf8_itemText_iff, crowdingFields, utf8Texts_cons, utf8Texts_nil, and_true]
      exact ⟨hno, h.nodeTexts.findNodeNameById hnode, hslot, hlevel⟩
    have hfits := (recordRow_crowding hrows hcrowding).fits
    rw [crowdingFields, itemText_four] at hrow hfits
    exact utf8_message (by decide) .ok hrow hfits

/-! ## Stops -/

/-- What a stop search asks for, where it is answered with stops. -/
def askedStops (data : AppData D) (keyword : Str) : List (StopNode D) :=
  if strIsBlank keyword || strContainsProtocolDelim keyword then [] else stopsListed data keyword

theorem utf8_handleStopSearch_iff (h : Utf8Records data) (hlabels : Utf8Labels data) (keyword : Str) :
    Utf8 (handleStopSearch data keyword maxPacketSize).response ↔
      ∀ stop ∈ askedStops data keyword, Piece.CutsClean 4095 0 (stopPieces data stop) := by
  unfold handleStopSearch askedStops
  by_cases hkey : (strIsBlank keyword || strContainsProtocolDelim keyword) = true
  · rw [if_pos hkey, if_pos hkey]
    exact iff_of_true utf8_invalidRequest (List.forall_mem_nil _)
  · rw [if_neg hkey, if_neg hkey]
    refine ((listing_appendStops data keyword).utf8_iff (by decide)).trans ?_
    rw [List.forall_mem_map]
    refine forall₂_congr fun stop hstop => ?_
    have htexts := h.stops stop (listed_subset stop hstop)
    simp only [StopNode.texts, utf8Texts_cons] at htexts
    rw [stopRow, utf8Texts_cons, utf8Texts_cons, utf8Texts_cons, and_iff_right htexts.1, and_iff_right htexts.2.1,
      utf8_appendRoutesForStop_iff h hlabels]
    exact and_iff_left utf8Texts_nil

/-! ## Buses -/

theorem Utf8Records.busTexts (h : Utf8Records data) (hlabels : Utf8Labels data) {route : RouteNode}
    (hroute : route ∈ data.routes) : BusTexts Utf8 data route := by
  have htexts := h.routes route hroute
  simp only [RouteNode.texts, utf8Texts_append, utf8Texts_cons, utf8Texts_flatMap] at htexts
  obtain ⟨⟨hno, -, hstart, hend, -⟩, hstops⟩ := htexts
  refine ⟨hno, ⟨hstart, hend⟩, fun stop hstop => ?_, hlabels route hroute⟩
  have hstopTexts := hstops stop hstop
  simp only [RouteStopNode.texts, utf8Texts_cons] at hstopTexts
  exact hstopTexts.2.1

theorem utf8_handleBusSearch (h : Utf8Records data) (hlabels : Utf8Labels data) (keyword : Str) :
    Utf8 (handleBusSearch data keyword maxPacketSize).response := by
  by_cases hkey : (strIsBlank keyword || strContainsProtocolDelim keyword) = true
  · unfold handleBusSearch
    rw [if_pos hkey]
    exact utf8_invalidRequest
  · rw [Bool.or_eq_true, not_or, Bool.not_eq_true, Bool.not_eq_true] at hkey
    rw [handleBusSearch_listing hkey.1 hkey.2]
    split
    · exact utf8_notFound (by decide)
    · have hpack := packRoutes_texts textProperty_utf8 h.nodeTexts
        (fun route (hroute : route ∈ busListing data keyword) => h.busTexts hlabels (mem_busListing hroute))
        (utf8_header (by decide : pktBusSearchRes ∈ packetTypes) .ok) 0
      rw [strAppend_eq_put (by decide)]
      exact joins_utf8.put hpack (utf8_singleton (by decide))

/-! ## Paths -/

section

variable [CDouble D]

omit [CDouble D] in
theorem Utf8Records.graphTexts (h : Utf8Records data) : GraphTexts Utf8 data.graph where
  nodes node hnode := by
    have htexts := h.nodes node hnode
    simp only [GraphNode.texts, utf8Texts_append, utf8Texts_cons] at htexts
    exact ⟨htexts.1.1, htexts.1.2.1, htexts.1.2.2.1⟩
  edges i e he := by
    unfold TransferGraph.edgesAt at he
    split at he
    · rename_i node hnode
      exact h.nodes node (List.mem_of_getElem? hnode) _ (List.mem_append_right _ (List.mem_map_of_mem he))
    · cases he

theorem utf8_handleTransfer_iff (h : Utf8Records data) (mem : Bool) (body : Str) :
    Utf8 (handleTransfer mem data body maxPacketSize).response ↔
      ∀ path ∈ requestedPath mem data body, AtChar ((transferText data path).drop (maxPacketSize - 1)) := by
  cases hpath : requestedPath mem data body with
  | none =>
    refine iff_of_true ?_ fun path hp => absurd hp (Option.not_mem_none _)
    rcases handleTransfer_none hpath maxPacketSize with heq | heq
    · exact heq ▸ utf8_invalidRequest
    · exact heq ▸ utf8_notFound (by decide)
  | some path =>
    have hsize : maxPacketSize = 32768 := rfl
    have hshape := requestedPath_shape hpath
    have hutf := GraphTexts.transferText textProperty_utf8 h.graphTexts hshape
    rw [handleTransfer_some hpath, transferResponse_eq hshape.record]
    simp only [Option.mem_some_iff, forall_eq']
    split
    · rw [List.drop_of_length_le (by omega)]
      exact iff_of_true (hutf.append (utf8_singleton (by decide))) atChar_nil
    · exact utf8_take_iff hutf _

/-! ## The answers -/

/-- The requests that are answered from the store. -/
def dataRequests : List Str := [pktStopSearchReq, pktBusSearchReq, pktTransferReq] ++ recordRequests

/-- The texts of the store, the labels of its routes and the answers made from it are UTF-8. -/
structure Utf8Kept (data : AppData D) : Prop where
  texts : Utf8Texts data.texts
  labels : Utf8Labels data
  answers : ∀ env fs request, (splitRequest request).1 ∈ dataRequests →
    Utf8 (routeRequest data env fs request maxPacketSize).1.response

/-- No cut on the way from the store to an answer falls within a character. -/
structure CleanCuts (data : AppData D) : Prop where
  labels : ∀ route ∈ data.routes, CutsAtChar (labelCuts data route)
  lists : ∀ request, (splitRequest request).1 = pktStopSearchReq →
    ∀ stop ∈ askedStops data (splitRequest request).2, Piece.CutsClean 4095 0 (stopPieces data stop)
  paths : ∀ mem request, (splitRequest request).1 = pktTransferReq →
    ∀ path ∈ requestedPath mem data (splitRequest request).2,
      AtChar ((transferText data path).drop (maxPacketSize - 1))

/-- The answers that are never cut. -/
theorem utf8_records (h : Utf8Records data) (hrows : LoadedRows data) (env : Env) (fs : UserFiles) (request : List Byte)
    (htype : (splitRequest request).1 ∈ recordRequests) :
    Utf8 (routeRequest data env fs request maxPacketSize).1.response := by
  unfold routeRequest
  dsimp only
  generalize splitRequest request = parts at htype
  obtain ⟨type, body⟩ := parts
  simp only [recordRequests, List.mem_cons, List.not_mem_nil, or_false] at htype
  rcases htype with rfl | rfl | rfl | rfl
  · exact utf8_handleSubwaySearch h body
  · exact utf8_handleFacility h body
  · exact utf8_handleArrival h hrows body
  · exact utf8_handleCrowding h hrows body

theorem utf8Kept_iff_texts (hrows : LoadedRows data) :
    Utf8Kept data ↔ Utf8Texts data.texts ∧ CleanCuts data := by
  constructor
  · intro h
    have hrecords := h.texts.records
    refine ⟨h.texts, (utf8Labels_iff hrecords).mp h.labels, fun request htype => ?_, fun mem request htype => ?_⟩
    · have hanswer := h.answers ⟨.allOk, true, []⟩ ⟨none, none, none, none⟩ request (htype ▸ by decide)
      rw [routeRequest_stop htype] at hanswer
      exact (utf8_handleStopSearch_iff hrecords h.labels _).mp hanswer
    · have hanswer := h.answers ⟨.allOk, mem, []⟩ ⟨none, none, none, none⟩ request (htype ▸ by decide)
      rw [routeRequest_transfer htype] at hanswer
      exact (utf8_handleTransfer_iff hrecords mem _).mp hanswer
  · rintro ⟨htexts, hcuts⟩
    have hrecords := htexts.records
    have hlabels := (utf8Labels_iff hrecords).mpr hcuts.labels
    refine ⟨htexts, hlabels, fun env fs request htype => ?_⟩
    simp only [dataRequests, List.mem_append, List.mem_cons, List.not_mem_nil, or_false] at htype
    rcases htype with (hstop | hbus | htransfer) | hrecord
    · rw [routeRequest_stop hstop]
      exact (utf8_handleStopSearch_iff hrecords hlabels _).mpr (hcuts.lists request hstop)
    · rw [routeRequest_bus hbus]
      exact utf8_handleBusSearch hrecords hlabels _
    · rw [routeRequest_transfer htransfer]
      exact (utf8_handleTransfer_iff hrecords env.mem _).mpr (hcuts.paths env.mem request htransfer)
    · exact utf8_records hrecords hrows env fs request hrecord

/-- Files of UTF-8 are kept so exactly when no cell, label, route list or answer
is cut within a character. -/
theorem utf8Kept_iff {files : CsvFiles} (h : Utf8Files files) :
    Utf8Kept (loadedData files : AppData D) ↔
      SheetsClean (appDataInit : AppData D) (sheets files) ∧ CleanCuts (loadedData files : AppData D) := by
  rw [utf8Kept_iff_texts (loadedRows files)]
  exact and_congr_left' (utf8_dataLoaderLoad_iff h)

end

/-- Files that load, with a facility whose category is a word of seventeen syllables. -/
def syllableFiles : CsvFiles :=
  { kioskFiles with
    facilities := some (utf8 ("facility_id,name,category,nearest_node_id,address\n" ++
      "F,Kiosk,가나다라마바사아자차카타파하거너더,S,Main St\n")) }

theorem utf8Files_syllable : Utf8Files syllableFiles := by
  unfold Utf8Files
  simp only [syllableFiles, kioskFiles, List.forall_mem_cons, Option.mem_some_iff, forall_eq']
  exact ⟨utf8_literal _, utf8_literal _, utf8_literal _, utf8_literal _, utf8_literal _, utf8_literal _, utf8_literal _,
    utf8_literal _, List.forall_mem_nil _⟩

/-- What the condition is of these files. -/
theorem utf8Kept_syllable : Utf8Kept (loadedData syllableFiles : AppData ℚ) ↔
    SheetsClean (appDataInit : AppData ℚ) (sheets syllableFiles) ∧
      CleanCuts (loadedData syllableFiles : AppData ℚ) := utf8Kept_iff utf8Files_syllable

/-- Sixteen syllables and a third of the last are stored. -/
theorem utf8Kept_category : Utf8Files syllableFiles ∧ (dataLoaderLoad syllableFiles : AppData ℚ × Bool).2 = true ∧
    ¬ Utf8Kept (loadedData syllableFiles : AppData ℚ) := by
  have hstored : (loadedData syllableFiles : AppData ℚ).facilities.map (·.category.val) =
      [(utf8 "가나다라마바사아자차카타파하거너더").take 49] := by decide +kernel
  refine ⟨utf8Files_syllable, by decide +kernel, fun h => ?_⟩
  obtain ⟨cur, hcur, hcategory⟩ := List.mem_map.mp (hstored ▸ List.mem_singleton_self _ :
    (utf8 "가나다라마바사아자차카타파하거너더").take 49 ∈
      (loadedData syllableFiles : AppData ℚ).facilities.map (·.category.val))
  have hutf := h.texts.records.facilities cur hcur cur.category (by simp [FacilityNode.texts])
  rw [hcategory, utf8_take_iff (utf8_literal _)] at hutf
  exact absurd hutf (by decide +kernel)

end Transit
