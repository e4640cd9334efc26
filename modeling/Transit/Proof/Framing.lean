import Transit.Proof.BusReply
import Transit.Proof.FileLines
import Transit.Proof.GraphBuild
import Transit.Proof.TransferReply
import Transit.Server.Router

/-!
# When a response ends in its line feed

`routeRequest_spec`: whatever the request, the response is complete, or it
fills the buffer and has no line feed at all. `TerminatorFits` says of a
request that its answer leaves room for one, and `routeRequest_framed_iff` that
this is exactly when the response has the documented form. The files at the
end give a route so many stops that there is no room.
-/

namespace Transit

open Framework

variable {D : Type} [CDouble D] {data : AppData D}

/-- What the client can tell the end of: a line, or a full buffer. -/
def Packet (response : Str) : Prop :=
  Complete maxPacketSize response ∨ (Plain response ∧ response.length = maxPacketSize - 1)

/-- The path a `TRANSFER_REQ` with this body asks for, if there is one. -/
def requestedPath (mem : Bool) (data : AppData D) (body : Str) : Option GraphPath :=
  if strIsBlank body then none
  else
    match cutAt itemSep (safeStrcpy 256 body) with
    | none => none
    | some (fromText, toText) => transferPath mem data fromText toText

/-- The answer to a request leaves room for its line feed: the whole text of a
path does, and so do the routes of a bus search as the buffer packs them. -/
def TerminatorFits (data : AppData D) (env : Env) (request : List Byte) : Prop :=
  ((splitRequest request).1 = pktTransferReq → ∀ path,
    requestedPath env.mem data (splitRequest request).2 = some path →
      (transferText data path).length ≤ maxPacketSize - 2) ∧
  ((splitRequest request).1 = pktBusSearchReq →
    strContainsProtocolDelim (splitRequest request).2 = false →
      busUsed data (busListing data (splitRequest request).2) (header pktBusSearchRes .ok).length 0 <
        maxPacketSize - 1)

omit [CDouble D] in
theorem Framed.not_plain {response : Str} (h : Framed response) : ¬ Plain response := by
  obtain ⟨body, rfl, -⟩ := h
  simp [Plain]

/-! ## The two handlers -/

theorem requestedPath_shape {mem : Bool} {body : Str} {path : GraphPath}
    (h : requestedPath mem data body = some path) : PathShape data.graph path := by
  simp only [requestedPath] at h
  split at h
  · cases h
  · split at h
    · cases h
    · simp only [transferPath] at h
      split at h
      · exact graphFindPath_shape h
      · cases h

theorem handleTransfer_some {mem : Bool} {body : Str} {path : GraphPath} {size : Nat}
    (h : requestedPath mem data body = some path) :
    (handleTransfer mem data body size).response = transferResponse data path size := by
  unfold requestedPath at h
  unfold handleTransfer
  by_cases hb : strIsBlank body = true
  · rw [if_pos hb] at h
    cases h
  · rw [if_neg hb] at h ⊢
    cases hcut : cutAt itemSep (safeStrcpy 256 body) with
    | none =>
      rw [hcut] at h
      cases h
    | some texts =>
      rw [hcut] at h
      dsimp only at h ⊢
      rw [h]

theorem handleTransfer_none {mem : Bool} {body : Str} (h : requestedPath mem data body = none) (size : Nat) :
    handleTransfer mem data body size = invalidRequestReply size ∨
      handleTransfer mem data body size = notFoundReply size pktTransferRes := by
  unfold requestedPath at h
  unfold handleTransfer
  by_cases hb : strIsBlank body = true
  · exact .inl (if_pos hb)
  · rw [if_neg hb] at h ⊢
    cases hcut : cutAt itemSep (safeStrcpy 256 body) with
    | none => exact .inl rfl
    | some texts =>
      rw [hcut] at h
      dsimp only at h ⊢
      rw [h]
      exact .inr rfl

theorem complete_handleTransfer_none {mem : Bool} {body : Str} (h : requestedPath mem data body = none) :
    Complete maxPacketSize (handleTransfer mem data body maxPacketSize).response := by
  rcases handleTransfer_none h maxPacketSize with heq | heq
  · rw [heq]
    exact complete_invalidRequestReply (by decide)
  · rw [heq]
    exact complete_notFoundReply (by decide) (by decide)

theorem transferResponse_spec (h : LoadedStore data) {path : GraphPath} (hp : PathShape data.graph path) :
    Packet (transferResponse data path maxPacketSize) ∧
      (Framed (transferResponse data path maxPacketSize) ↔
        (transferText data path).length ≤ maxPacketSize - 2) := by
  have hplain := plain_transferText h hp
  have hsize : maxPacketSize = 32768 := rfl
  rw [transferResponse_eq hp.record]
  split
  · rename_i hfit
    have hframed : Framed (transferText data path ++ [packetTerm]) := ⟨_, rfl, hplain⟩
    exact ⟨.inl ⟨hframed, by simp only [List.length_append, List.length_singleton]; omega⟩,
      ⟨fun _ => hfit, fun _ => hframed⟩⟩
  · rename_i hfit
    have hcut : Plain ((transferText data path).take (maxPacketSize - 1)) :=
      hplain.of_subset (List.take_subset _ _)
    exact ⟨.inr ⟨hcut, by rw [List.length_take]; omega⟩,
      ⟨fun hf => absurd hcut hf.not_plain, fun hf => absurd hf hfit⟩⟩

omit [CDouble D] in
theorem handleBusSearch_spec (h : PlainData data) {keyword : Str} (hb : strIsBlank keyword = false)
    (hd : strContainsProtocolDelim keyword = false) :
    Packet (handleBusSearch data keyword maxPacketSize).response ∧
      (Framed (handleBusSearch data keyword maxPacketSize).response ↔
        busUsed data (busListing data keyword) (header pktBusSearchRes .ok).length 0 < maxPacketSize - 1) := by
  have hsize : maxPacketSize = 32768 := rfl
  rw [handleBusSearch_listing hb hd]
  split
  · rename_i hnil
    have hc : Complete maxPacketSize (notFoundReply maxPacketSize pktBusSearchRes).response :=
      complete_notFoundReply (by decide) (by decide)
    rw [hnil]
    have hroom : (header pktBusSearchRes .ok).length < maxPacketSize - 1 := by decide
    exact ⟨.inl hc, ⟨fun _ => hroom, fun _ => hc.framed⟩⟩
  · have hplain := plain_packRoutes h (fun r (hr : r ∈ busListing data keyword) => mem_busListing hr)
      (header_spec (by decide : pktBusSearchRes ∈ packetTypes) .ok).1 0
    have hle := length_packRoutes_le data (busListing data keyword) (header pktBusSearchRes .ok, 0) (by decide)
    have hlen := length_packRoutes data (busListing data keyword) (header pktBusSearchRes .ok, 0)
    simp only at hlen
    rw [← hlen]
    revert hplain hle
    generalize (packRoutes data (busListing data keyword) (header pktBusSearchRes .ok, 0)).1 = response
    intro hplain hle
    by_cases hfit : response.length < maxPacketSize - 1
    · have hc := Roomy.complete ⟨hplain, (by omega : response.length + 2 ≤ maxPacketSize)⟩
      exact ⟨.inl hc, ⟨fun _ => hfit, fun _ => hc.framed⟩⟩
    · have hkeep : (strAppend response maxPacketSize [packetTerm]).1 = response := by
        simp only [strAppend]
        rw [if_pos (by simp only [List.length_singleton]; omega)]
      simp only [hkeep]
      exact ⟨.inr ⟨hplain, by omega⟩, ⟨fun hf => absurd hplain hf.not_plain, fun hf => absurd hf hfit⟩⟩

/-! ## Every request -/

omit [CDouble D] in
theorem complete_ite {c : Prop} [Decidable c] {a b : Reply × UserFiles} {size : Nat}
    (ha : c → Complete size a.1.response) (hb : ¬ c → Complete size b.1.response) :
    Complete size (if c then a else b).1.response := by
  by_cases hc : c
  · rw [if_pos hc]; exact ha hc
  · rw [if_neg hc]; exact hb hc

/-- The handlers whose responses are always complete. -/
theorem complete_routeRequest (h : PlainData data) (env : Env) (fs : UserFiles) {request : List Byte}
    (ht : (splitRequest request).1 ≠ pktTransferReq) (hb : (splitRequest request).1 ≠ pktBusSearchReq) :
    Complete maxPacketSize (routeRequest data env fs request maxPacketSize).1.response := by
  rw [routeRequest]
  refine complete_ite (fun _ => complete_snprintf (by decide) (by decide)) fun _ => ?_
  refine complete_ite (fun _ => complete_snprintf (by decide : Plain (pktPong ++ [fieldSep])) (by decide))
    fun _ => ?_
  refine complete_ite (fun _ => complete_handleStopSearch h _) fun _ => ?_
  refine complete_ite (fun hbus => absurd hbus hb) fun _ => ?_
  refine complete_ite (fun _ => complete_handleSubwaySearch h _) fun _ => ?_
  refine complete_ite (fun htransfer => absurd htransfer ht) fun _ => ?_
  refine complete_ite (fun _ => complete_handleFacility h _) fun _ => ?_
  refine complete_ite (fun _ => complete_handleArrival h _) fun _ => ?_
  refine complete_ite (fun _ => complete_handleCrowding h _) fun _ => ?_
  refine complete_ite (fun _ => complete_handleFavoriteAdd ..) fun _ => ?_
  refine complete_ite (fun _ => complete_handleFavoriteList ..) fun _ => ?_
  refine complete_ite (fun _ => complete_handleFavoriteDelete ..) fun _ => ?_
  exact complete_ite (fun _ => complete_handleRecentList ..)
    fun _ => complete_invalidRequestReply (by decide)

theorem routeRequest_transfer {env : Env} {fs : UserFiles} {request : List Byte} {size : Nat}
    (h : (splitRequest request).1 = pktTransferReq) :
    (routeRequest data env fs request size).1 = handleTransfer env.mem data (splitRequest request).2 size := by
  have h1 : pktTransferReq ≠ pktHello := by decide
  have h2 : pktTransferReq ≠ pktPing := by decide
  have h3 : pktTransferReq ≠ pktStopSearchReq := by decide
  have h4 : pktTransferReq ≠ pktBusSearchReq := by decide
  have h5 : pktTransferReq ≠ pktSubwaySearchReq := by decide
  simp only [routeRequest, h, h1, h2, h3, h4, h5, ↓reduceIte, runServiceAndSaveRecent]

theorem routeRequest_bus {env : Env} {fs : UserFiles} {request : List Byte} {size : Nat}
    (h : (splitRequest request).1 = pktBusSearchReq) :
    (routeRequest data env fs request size).1 = handleBusSearch data (splitRequest request).2 size := by
  have h1 : pktBusSearchReq ≠ pktHello := by decide
  have h2 : pktBusSearchReq ≠ pktPing := by decide
  have h3 : pktBusSearchReq ≠ pktStopSearchReq := by decide
  simp only [routeRequest, h, h1, h2, h3, ↓reduceIte, runServiceAndSaveRecent]

/-- Every response can be told apart from what follows it, and ends in its line
feed exactly when there is room for one. -/
theorem routeRequest_spec (h : LoadedStore data) (env : Env) (fs : UserFiles) (request : List Byte) :
    Packet (routeRequest data env fs request maxPacketSize).1.response ∧
      (Framed (routeRequest data env fs request maxPacketSize).1.response ↔
        TerminatorFits data env request) := by
  by_cases ht : (splitRequest request).1 = pktTransferReq
  · have hne : pktTransferReq ≠ pktBusSearchReq := by decide
    simp only [routeRequest_transfer ht, TerminatorFits, ht, hne, false_imp_iff, and_true, true_imp_iff]
    cases hp : requestedPath env.mem data (splitRequest request).2 with
    | none =>
      have hc := complete_handleTransfer_none hp
      exact ⟨.inl hc, ⟨fun _ _ hn => by simp at hn, fun _ => hc.framed⟩⟩
    | some path =>
      rw [handleTransfer_some hp]
      obtain ⟨hpacket, hframed⟩ := transferResponse_spec h (requestedPath_shape hp)
      refine ⟨hpacket, hframed.trans ⟨fun hfit _ he => ?_, fun hfit => hfit path rfl⟩⟩
      cases he
      exact hfit
  · by_cases hb : (splitRequest request).1 = pktBusSearchReq
    · have hne : pktBusSearchReq ≠ pktTransferReq := by decide
      simp only [routeRequest_bus hb, TerminatorFits, hb, hne, false_imp_iff, true_and, true_imp_iff]
      by_cases hd : strContainsProtocolDelim (splitRequest request).2 = false
      · by_cases hblank : strIsBlank (splitRequest request).2 = false
        · obtain ⟨hpacket, hframed⟩ := handleBusSearch_spec h.records hblank hd
          exact ⟨hpacket, hframed.trans ⟨fun hfit _ => hfit, fun hfit => hfit hd⟩⟩
        · have hc : Complete maxPacketSize
              (handleBusSearch data (splitRequest request).2 maxPacketSize).response := by
            simp only [handleBusSearch, Bool.not_eq_false] at hblank ⊢
            simp only [hblank, Bool.true_or, ↓reduceIte]
            exact complete_invalidRequestReply (by decide)
          have hnone : busListing data (splitRequest request).2 = [] :=
            busListing_blank (by simpa using hblank)
          refine ⟨.inl hc, ⟨fun _ _ => ?_, fun _ => hc.framed⟩⟩
          rw [hnone]
          exact (by decide : (header pktBusSearchRes .ok).length < maxPacketSize - 1)
      · have hc : Complete maxPacketSize
            (handleBusSearch data (splitRequest request).2 maxPacketSize).response := by
          simp only [handleBusSearch, Bool.not_eq_false] at hd ⊢
          simp only [hd, Bool.or_true, ↓reduceIte]
          exact complete_invalidRequestReply (by decide)
        exact ⟨.inl hc, ⟨fun _ hn => absurd hn hd, fun _ => hc.framed⟩⟩
    · have hc := complete_routeRequest h.records env fs ht hb
      exact ⟨.inl hc, ⟨fun _ => ⟨fun hn => absurd hn ht, fun hn => absurd hn hb⟩, fun _ => hc.framed⟩⟩

/-- For every store the loader can build, all contents of the user's files and
every request, the response has the documented form exactly when its text
leaves room for the line feed. -/
theorem routeRequest_framed_iff (files : CsvFiles) (env : Env) (fs : UserFiles) (request : List Byte) :
    Framed (routeRequest (dataLoaderLoad files : AppData D × Bool).1 env fs request
        maxPacketSize).1.response ↔
      TerminatorFits (dataLoaderLoad files : AppData D × Bool).1 env request :=
  (routeRequest_spec (loadedStore files) env fs request).2

/-! ## A bus search that loses its line feed -/

/-- A stop with a name of 98 letters. -/
def crowdedStop : StopNode ℚ where
  stopId := .copy _ (utf8 "S")
  stopName := .copy _ (List.replicate 98 65)
  lat := zero
  lng := zero
  district := .copy _ []

def crowdedRouteStop : RouteStopNode where
  routeNo := .copy _ (utf8 "1")
  seq := 1
  stopId := .copy _ (utf8 "S")
  direction := .copy _ []

/-- A route that stops there `n` times. -/
def crowdedRoute (n : Nat) : RouteNode where
  routeNo := .copy _ (utf8 "1")
  routeName := .copy _ (utf8 "1")
  startStopId := .copy _ (utf8 "S")
  endStopId := .copy _ (utf8 "S")
  intervalMin := 0
  stops := List.replicate n crowdedRouteStop

def crowdedData (n : Nat) : AppData ℚ where
  stops := [crowdedStop]
  routes := [crowdedRoute n]
  stations := []
  subwayDistances := []
  facilities := []
  arrivals := []
  crowdings := []
  graph := graphInit

def crowdedStation : StationNode ℚ where
  stationId := .copy _ (utf8 "T")
  stationName := .copy _ (utf8 "T")
  lineNo := .copy _ (utf8 "2")
  lat := zero
  lng := zero
  address := .copy _ []
  transferLines := .copy _ []

def crowdedDistance : SubwayDistanceNode ℚ where
  fromStationId := .copy _ (utf8 "T")
  toStationId := .copy _ (utf8 "T")
  lineNo := .copy _ (utf8 "2")
  distanceKm := zero
  estimatedMinutes := 2

/-- The CSV files they come from, with one row more than they need in the
files that must not be empty. -/
def crowdedFiles (n : Nat) : CsvFiles where
  busStops := some (utf8 "stop_id,stop_name\nS," ++ List.replicate 98 65 ++ [packetTerm])
  busRoutes := some (utf8 "route_no,route_name,start_stop_id,end_stop_id\n1,1,S,S\n")
  routeStops := some (utf8 "route_no,seq,stop_id\n" :: List.replicate n (utf8 "1,1,S\n")).flatten
  subwayStations := some (utf8 "station_id,station_name,line_no\nT,T,2\n")
  subwayDistances := some (utf8 "from_station_id,to_station_id,distance_km,estimated_minutes\nT,T,,2\n")
  facilities := some (utf8 "facility_id,name,category,nearest_node_id\n")
  arrivalTest := some (utf8 "route_no,node_id,time_slot,arrival_minutes,status\n")
  crowdingTest := some (utf8 "route_no,node_id,time_slot,crowding_level\n")

/-- Reading a CSV file whose lines and header are known. -/
theorem loadCsv_eq {σ : Type} {text : List Byte} {first : Str} {lines : List Str} {fields : List Str}
    {required : List Str} {row : CsvRow → σ → CsvRow → Option σ} (hlines : fgetsAll 1024 text = first :: lines)
    (hhead : csvLoop first [] [] false = fields)
    (hreq : (required.all fun name => csvFindHeader ⟨fields⟩ name ≥ 0) = true) (data : σ) :
    loadCsv (some text) required row data = some (loadRows (row ⟨fields⟩) lines data) := by
  have hparse : csvParseLine first = ⟨fields⟩ := congrArg CsvRow.mk hhead
  simp only [loadCsv, hlines, hparse, hreq, ↓reduceIte]

theorem loadBusStops_crowded (n : Nat) : loadBusStops (crowdedFiles n).busStops appDataInit =
    ({ (appDataInit : AppData ℚ) with stops := [crowdedStop] }, true) := by
  let fields := [utf8 "stop_id", utf8 "stop_name"]
  let line := utf8 "S," ++ List.replicate 98 65 ++ [packetTerm]
  have hlines : fgetsAll 1024 (utf8 "stop_id,stop_name\nS," ++ List.replicate 98 65 ++ [packetTerm]) =
      [utf8 "stop_id,stop_name\n", line] := by decide +kernel
  have hcols : [utf8 "stop_id", utf8 "stop_name", utf8 "lat", utf8 "lng", utf8 "district"].map
      (column ⟨fields⟩ (csvParseLine line)) = [utf8 "S", List.replicate 98 65, [], [], []] := by
    decide +kernel
  have hblank : strIsBlank (utf8 "S") = false := by decide
  have hname : isPlaceholderStopName (CStr.copy maxNameLen (List.replicate 98 65)) = false := by
    decide +kernel
  simp only [List.map_cons, List.map_nil, List.cons.injEq, and_true] at hcols
  rw [loadBusStops, crowdedFiles, loadCsv_eq hlines (by decide +kernel : _ = fields) (by decide +kernel)]
  simp only [loadRows, busStopRow, hcols, hblank, hname, Bool.false_eq_true, ↓reduceIte]
  rfl

set_option maxRecDepth 2000 in
theorem loadBusRoutes_crowded (n : Nat) :
    loadBusRoutes (crowdedFiles n).busRoutes { (appDataInit : AppData ℚ) with stops := [crowdedStop] } =
      (crowdedData 0, true) := by
  let fields := [utf8 "route_no", utf8 "route_name", utf8 "start_stop_id", utf8 "end_stop_id"]
  have hlines : fgetsAll 1024 (utf8 "route_no,route_name,start_stop_id,end_stop_id\n1,1,S,S\n") =
      [utf8 "route_no,route_name,start_stop_id,end_stop_id\n", utf8 "1,1,S,S\n"] := rfl
  have hcols : [utf8 "route_no", utf8 "route_name", utf8 "start_stop_id", utf8 "end_stop_id",
      utf8 "interval_min"].map (column ⟨fields⟩ (csvParseLine (utf8 "1,1,S,S\n"))) =
        [utf8 "1", utf8 "1", utf8 "S", utf8 "S", []] := rfl
  have hblank : strIsBlank (utf8 "1") = false := by decide
  simp only [List.map_cons, List.map_nil, List.cons.injEq, and_true] at hcols
  rw [loadBusRoutes, crowdedFiles, loadCsv_eq hlines (show _ = fields from rfl) rfl]
  simp only [loadRows, busRouteRow, hcols, hblank, Bool.false_eq_true, ↓reduceIte]
  rfl

/-- Rows that each take the store one step further. -/
theorem loadRows_replicate {σ : Type} {row : σ → CsvRow → Option σ} {line : Str} {state : Nat → σ}
    (h : ∀ k, row (state k) (csvParseLine line) = some (state (k + 1))) (n k : Nat) :
    loadRows row (List.replicate n line) (state k) = (state (k + n), n) := by
  induction n generalizing k with
  | zero => rfl
  | succ n ih =>
    simp only [List.replicate_succ, loadRows, h, ih]
    rw [Nat.add_right_comm, Nat.add_assoc]

theorem insertRouteStop_replicate (stop : RouteStopNode) (n : Nat) :
    insertRouteStop stop (List.replicate n stop) = List.replicate (n + 1) stop := by
  induction n with
  | zero => rfl
  | succ n ih => simp only [List.replicate_succ, insertRouteStop, le_refl, ↓reduceIte, ih]

theorem loadRouteStops_crowded {n : Nat} (hn : 0 < n) :
    loadRouteStops (crowdedFiles n).routeStops (crowdedData 0) = (crowdedData n, true) := by
  let fields := [utf8 "route_no", utf8 "seq", utf8 "stop_id"]
  have hlines : fgetsAll 1024 (utf8 "route_no,seq,stop_id\n" :: List.replicate n (utf8 "1,1,S\n")).flatten =
      utf8 "route_no,seq,stop_id\n" :: List.replicate n (utf8 "1,1,S\n") := by
    refine fgetsAll_flatten fun l hl => ?_
    rcases List.mem_cons.mp hl with rfl | hl
    · exact ⟨⟨utf8 "route_no,seq,stop_id", by decide, by decide, by decide⟩, by decide⟩
    · rw [List.eq_of_mem_replicate hl]
      exact ⟨⟨utf8 "1,1,S", by decide, by decide, by decide⟩, by decide⟩
  have hcols : [utf8 "route_no", utf8 "seq", utf8 "stop_id", utf8 "direction"].map
      (column ⟨fields⟩ (csvParseLine (utf8 "1,1,S\n"))) = [utf8 "1", utf8 "1", utf8 "S", []] := rfl
  have hblank : strIsBlank (utf8 "1") = false ∧ strIsBlank (utf8 "S") = false := by decide
  have hseq : parseIntOrZero (utf8 "1") = 1 := by decide
  simp only [List.map_cons, List.map_nil, List.cons.injEq, and_true] at hcols
  have hstep : ∀ k, routeStopRow ⟨fields⟩ (crowdedData k) (csvParseLine (utf8 "1,1,S\n")) =
      some (crowdedData (k + 1)) := by
    intro k
    have hfound : (findRouteByNo (crowdedData k) (utf8 "1")).isNone = false ∧
        (findStopById (crowdedData k) (utf8 "S")).isNone = false := ⟨rfl, rfl⟩
    have hroutes : addToRoute (utf8 "1") crowdedRouteStop [crowdedRoute k] = [crowdedRoute (k + 1)] := by
      have heq : ((crowdedRoute k).routeNo.val == utf8 "1") = true :=
        (by decide : ((crowdedRoute 0).routeNo.val == utf8 "1") = true)
      rw [addToRoute, if_pos heq]
      simp only [routeStopAdd, crowdedRoute, insertRouteStop_replicate]
    simp only [routeStopRow, hcols, hblank, hfound, Bool.or_self, Bool.false_eq_true, ↓reduceIte, hseq]
    simp only [crowdedData, ← hroutes]
    rfl
  rw [loadRouteStops, crowdedFiles, loadCsv_eq hlines (show _ = fields from rfl) rfl,
    loadRows_replicate hstep, Nat.zero_add]
  simp [loaderResult, hn]

/-- Everything but the graph, which a bus search does not look at. -/
def crowdedStore (n : Nat) : AppData ℚ :=
  { crowdedData n with stations := [crowdedStation], subwayDistances := [crowdedDistance] }

theorem loadSubwayStations_crowded (n : Nat) :
    loadSubwayStations (crowdedFiles n).subwayStations (crowdedData n) =
      ({ crowdedData n with stations := [crowdedStation] }, true) := by
  let fields := [utf8 "station_id", utf8 "station_name", utf8 "line_no"]
  have hlines : fgetsAll 1024 (utf8 "station_id,station_name,line_no\nT,T,2\n") =
      [utf8 "station_id,station_name,line_no\n", utf8 "T,T,2\n"] := rfl
  have hcols : [utf8 "station_id", utf8 "station_name", utf8 "line_no", utf8 "lat", utf8 "lng",
      utf8 "address", utf8 "transfer_lines"].map (column ⟨fields⟩ (csvParseLine (utf8 "T,T,2\n"))) =
        [utf8 "T", utf8 "T", utf8 "2", [], [], [], []] := rfl
  have hblank : strIsBlank (utf8 "T") = false := by decide
  simp only [List.map_cons, List.map_nil, List.cons.injEq, and_true] at hcols
  rw [loadSubwayStations, crowdedFiles, loadCsv_eq hlines (show _ = fields from rfl) rfl]
  simp only [loadRows, subwayStationRow, hcols, hblank, Bool.false_eq_true, ↓reduceIte]
  rfl

set_option maxRecDepth 2000 in
theorem loadSubwayDistances_crowded (n : Nat) :
    loadSubwayDistances (crowdedFiles n).subwayDistances
      { crowdedData n with stations := [crowdedStation] } = (crowdedStore n, true) := by
  let fields := [utf8 "from_station_id", utf8 "to_station_id", utf8 "distance_km", utf8 "estimated_minutes"]
  have hlines : fgetsAll 1024
      (utf8 "from_station_id,to_station_id,distance_km,estimated_minutes\nT,T,,2\n") =
      [utf8 "from_station_id,to_station_id,distance_km,estimated_minutes\n", utf8 "T,T,,2\n"] := rfl
  have hcols : [utf8 "from_station_id", utf8 "to_station_id", utf8 "line_no", utf8 "distance_km",
      utf8 "estimated_minutes"].map (column ⟨fields⟩ (csvParseLine (utf8 "T,T,,2\n"))) =
        [utf8 "T", utf8 "T", [], [], utf8 "2"] := rfl
  have hblank : strIsBlank (utf8 "T") = false ∧ strIsBlank [] = true := by decide
  have hminutes : parseIntOrZero (utf8 "2") = 2 := by decide
  have hfound : findStationById { crowdedData n with stations := [crowdedStation] } (utf8 "T") =
      some crowdedStation := rfl
  simp only [List.map_cons, List.map_nil, List.cons.injEq, and_true] at hcols
  rw [loadSubwayDistances, crowdedFiles, loadCsv_eq hlines (show _ = fields from rfl) rfl]
  have hpos : ¬ (2 : Int) ≤ 0 := by decide
  simp only [loadRows, subwayDistanceRow, hcols, hblank, hfound, hminutes, hpos, Bool.false_eq_true,
    ↓reduceIte, Bool.or_self]
  rfl

/-- The files load without an error. -/
theorem dataLoaderLoad_crowded {n : Nat} (hn : 0 < n) :
    (dataLoaderLoad (crowdedFiles n) : AppData ℚ × Bool) =
      dataLoaderBuildGraph (crowdedStore n) := by
  have hlines : fgetsAll 1024 (utf8 "facility_id,name,category,nearest_node_id\n") =
        [utf8 "facility_id,name,category,nearest_node_id\n"] ∧
      fgetsAll 1024 (utf8 "route_no,node_id,time_slot,arrival_minutes,status\n") =
        [utf8 "route_no,node_id,time_slot,arrival_minutes,status\n"] ∧
      fgetsAll 1024 (utf8 "route_no,node_id,time_slot,crowding_level\n") =
        [utf8 "route_no,node_id,time_slot,crowding_level\n"] := ⟨rfl, rfl, rfl⟩
  have hfacilities : ∀ data : AppData ℚ, loadFacilities (crowdedFiles n).facilities data = (data, true) := by
    intro data
    rw [loadFacilities, crowdedFiles, loadCsv_eq hlines.1 rfl rfl]
    rfl
  have harrivals : ∀ data : AppData ℚ, loadArrivals (crowdedFiles n).arrivalTest data = (data, true) := by
    intro data
    rw [loadArrivals, crowdedFiles, loadCsv_eq hlines.2.1 rfl rfl]
    rfl
  have hcrowdings : ∀ data : AppData ℚ, loadCrowdings (crowdedFiles n).crowdingTest data = (data, true) := by
    intro data
    rw [loadCrowdings, crowdedFiles, loadCsv_eq hlines.2.2 rfl rfl]
    rfl
  simp only [dataLoaderLoad, loadBusStops_crowded, loadBusRoutes_crowded, loadRouteStops_crowded hn,
    loadSubwayStations_crowded, loadSubwayDistances_crowded, hfacilities, harrivals, hcrowdings,
    Bool.true_and]

/-- Its only answer to a search for `1`, in a store with any graph. -/
theorem busListing_crowded (n : Nat) (g : TransferGraph ℚ) :
    busListing { crowdedStore n with graph := g } (utf8 "1") = [crowdedRoute n] := by
  have hrank : routeMatchRank (crowdedRoute n) (utf8 "1") = 1 :=
    show routeMatchRank (crowdedRoute 0) (utf8 "1") = 1 from rfl
  have hseen : (markBusRouteSeen { crowdedStore n with graph := g } (crowdedRoute n) []
      stopRoutesTextSize).2 = true :=
    (by decide +kernel : (markBusRouteSeen (crowdedStore 0) (crowdedRoute 0) [] stopRoutesTextSize).2 = true)
  have hroutes : ([1, 2, 3].flatMap fun rank =>
      [crowdedRoute n].filter (routeMatchRank · (utf8 "1") = rank)) = [crowdedRoute n] := by
    simp [hrank]
  have hdef : busListing { crowdedStore n with graph := g } (utf8 "1") =
      (newRoutes { crowdedStore n with graph := g } ([1, 2, 3].flatMap fun rank =>
        [crowdedRoute n].filter (routeMatchRank · (utf8 "1") = rank)) []).take 10 := rfl
  rw [hdef, hroutes, newRoutes]
  cases hm : markBusRouteSeen { crowdedStore n with graph := g } (crowdedRoute n) [] stopRoutesTextSize with
  | mk keys new =>
    rw [hm] at hseen
    simp only at hseen
    subst hseen
    rfl

omit [CDouble D] in
theorem busStopPieces_replicate (data : AppData D) (stop : RouteStopNode) (n : Nat) :
    (busStopPieces data (List.replicate (n + 1) stop)).map List.length =
      (findNodeNameById data stop.stopId).length ::
        (List.replicate n [1, (findNodeNameById data stop.stopId).length]).flatten := by
  simp only [List.replicate_succ, busStopPieces, List.map_cons, List.cons.injEq, true_and]
  induction n with
  | zero => rfl
  | succ n ih =>
    simp only [List.replicate_succ, List.flatMap_cons, List.map_append, ih, List.flatten_cons]
    rfl

/-- With 400 stops the names use up the last byte. -/
theorem busUsed_crowded (g : TransferGraph ℚ) :
    busUsed { crowdedStore 400 with graph := g } [crowdedRoute 400] (header pktBusSearchRes .ok).length 0 =
      maxPacketSize - 1 := by
  have hhead : (busItemHead { crowdedStore 400 with graph := g } (crowdedRoute 400) 0).length =
      (busItemHead (crowdedStore 0) (crowdedRoute 0) 0).length := rfl
  have hname : (findNodeNameById { crowdedStore 400 with graph := g } crowdedRouteStop.stopId).length = 98 :=
    (by decide +kernel : (findNodeNameById (crowdedStore 0) crowdedRouteStop.stopId).length = 98)
  have hpieces := busStopPieces_replicate { crowdedStore 400 with graph := g } crowdedRouteStop 399
  have hroom : ¬ BusFull (header pktBusSearchRes .ok).length := by decide
  rw [hname] at hpieces
  simp only [busUsed, hroom, ↓reduceIte, hhead]
  rw [show (crowdedRoute 400).stops = List.replicate (399 + 1) crowdedRouteStop from rfl, hpieces]
  decide +kernel

/-- A search that fills the buffer: the response has no line feed. -/
theorem routeRequest_crowded {n : Nat} (hn : 0 < n) (env : Env) (fs : UserFiles)
    (hfull : ∀ g, busUsed { crowdedStore n with graph := g } [crowdedRoute n]
      (header pktBusSearchRes .ok).length 0 = maxPacketSize - 1) :
    (dataLoaderLoad (crowdedFiles n) : AppData ℚ × Bool).2 = true ∧
      ¬ Framed (routeRequest (dataLoaderLoad (crowdedFiles n) : AppData ℚ × Bool).1 env fs
        (utf8 "BUS_SEARCH_REQ|1\n") maxPacketSize).1.response := by
  have hstore := loadedStore (D := ℚ) (crowdedFiles n)
  have hgraph : (crowdedStore n).graph = graphInit := rfl
  have hok := dataLoaderBuildGraph_ok hgraph (List.mem_cons_self ..)
  have hrequest : splitRequest (utf8 "BUS_SEARCH_REQ|1\n") = (pktBusSearchReq, utf8 "1") := rfl
  rw [dataLoaderLoad_crowded hn] at hstore ⊢
  refine ⟨hok, fun hframed => ?_⟩
  have hlt := ((routeRequest_spec hstore _ _ _).2.mp hframed).2 (congrArg Prod.fst hrequest)
    (by rw [hrequest]; decide)
  have hlisting := busListing_crowded n (dataLoaderBuildGraph (crowdedStore n)).1.graph
  rw [hrequest] at hlt
  exact Nat.lt_irrefl _ (Nat.lt_of_le_of_lt (Nat.le_of_eq ((hfull _).symm.trans
    (congrArg (busUsed _ · _ _) hlisting.symm))) hlt)

/-- A route with 400 stops, found by its number. -/
theorem routeRequest_not_framed :
    (dataLoaderLoad (crowdedFiles 400) : AppData ℚ × Bool).2 = true ∧
      ¬ Framed (routeRequest (dataLoaderLoad (crowdedFiles 400) : AppData ℚ × Bool).1
        ⟨.allOk, true, []⟩ ⟨none, none, none, none⟩ (utf8 "BUS_SEARCH_REQ|1\n") maxPacketSize).1.response :=
  routeRequest_crowded (by decide) _ _ busUsed_crowded

end Transit
