import Transit.Proof.BusReply
import Transit.Proof.SearchItems

/-!
# What the client shows of a stop search and a bus search

The server writes an item for every stop, with the list of its routes, and for
every route, with the names of all its stops. The client copies an item into
1024 bytes, that of a route into 2048 bytes, before it cuts it into fields.
-/

namespace Transit

open Framework

variable {D : Type} {data : AppData D}

/-- The bytes that part fields, items and packets, and the line ends. -/
def separators : List Byte := [44, itemSep, listSep, fieldSep, packetTerm, 13]

/-- A text that is there and has no separator in it. -/
structure CleanText (s : Str) : Prop where
  nonempty : s ≠ []
  free : ∀ c ∈ separators, c ∉ s

theorem CleanText.of_all {s : Str} (h : s ≠ []) (hall : (separators.all fun c => !s.contains c) = true) :
    CleanText s where
  nonempty := h
  free c hc := by
    have hfree := List.all_eq_true.mp hall c hc
    rw [Bool.not_eq_true', ← Bool.not_eq_true, List.contains_iff_mem] at hfree
    exact hfree

/-- A store whose ids, names and route labels are clean. -/
structure CleanTexts (data : AppData D) : Prop where
  stops : ∀ stop ∈ data.stops, CleanText stop.stopId ∧ CleanText stop.stopName
  stations : ∀ station ∈ data.stations, CleanText station.stationId ∧ CleanText station.stationName
  routes : ∀ route ∈ data.routes, CleanText route.routeNo ∧ CleanText route.startStopId ∧
    CleanText route.endStopId ∧ ∀ rs ∈ route.stops, CleanText rs.stopId
  labels : ∀ route ∈ data.routes, ∀ label, routeDisplayLabel data route maxRouteLen = some label →
    CleanText label

theorem CleanText.of_find (h : CleanTexts data) {nodeId : Str} (hn : CleanText nodeId) :
    CleanText (findNodeNameById data nodeId) := by
  unfold findNodeNameById
  cases hstop : findStopById data nodeId with
  | some stop => exact (h.stops stop (List.mem_of_find?_eq_some hstop)).2
  | none =>
    dsimp only
    cases hstation : findStationById data nodeId with
    | some station => exact (h.stations station (List.mem_of_find?_eq_some hstation)).2
    | none => exact hn

/-! ## Stops -/

/-- The fields of a stop: its id, its name and the list of its routes. -/
def stopRow (data : AppData D) (stop : StopNode D) : List Str :=
  [stop.stopId, stop.stopName, appendRoutesForStop data stop stopRoutesTextSize]

/-- Where the loop over the stops ends. -/
def stopsFull (data : AppData D) (used count : Nat) (stop : StopNode D) : Bool :=
  count ≥ stopSearchMaxResults ||
    used + (stop.stopId.val.length + stop.stopName.val.length +
      (appendRoutesForStop data stop stopRoutesTextSize).length + 4) ≥ maxPacketSize

/-- The stops that a search lists. -/
def stopsListed (data : AppData D) (keyword : Str) : List (StopNode D) :=
  listed (stopMatches keyword) (stopsFull data) (stopRow data) (header pktStopSearchRes .ok).length 0 data.stops

theorem itemLoop_appendStops (data : AppData D) (keyword : Str) :
    ItemLoop (stopMatches keyword) (stopsFull data) (stopRow data) maxPacketSize
      (appendStops data keyword maxPacketSize) where
  nil _ _ := rfl
  cons stop rest response count := by
    rw [appendStops, stopRow, itemText_three]
    unfold stopsFull
    by_cases hm : stopMatches keyword stop = true
    · rw [if_pos hm, if_pos hm]
      by_cases hc : count ≥ stopSearchMaxResults
      · simp only [if_pos hc, decide_eq_true hc, Bool.true_or, ↓reduceIte]
      · simp only [if_neg hc, decide_eq_false hc, Bool.false_or, decide_eq_true_eq]
    · rw [if_neg hm, if_neg hm]

/-- Where the loop goes on, the item and the line feed have room. -/
theorem stopRow_fits {used count : Nat} {stop : StopNode D} (h : stopsFull data used count stop = false) :
    used + (itemText (stopRow data stop)).length + 3 ≤ maxPacketSize ∧
      used + (if count > 0 then 1 else 0) + (itemText (stopRow data stop)).length + 2 ≤ maxPacketSize := by
  unfold stopsFull at h
  rw [Bool.or_eq_false_iff, decide_eq_false_iff_not, decide_eq_false_iff_not] at h
  have hroom := h.2
  have hsmall : (if count > 0 then 1 else 0) ≤ 1 := by split <;> omega
  rw [stopRow, itemText_three]
  simp only [List.length_append, List.length_singleton]
  omega

theorem listing_appendStops (data : AppData D) (keyword : Str) :
    Listing pktStopSearchRes ((stopsListed data keyword).map (stopRow data))
      (appendStops data keyword maxPacketSize data.stops (snprintf maxPacketSize (header pktStopSearchRes .ok)) 0) := by
  have hsize : maxPacketSize = 32768 := rfl
  have hheader : (header pktStopSearchRes .ok).length ≤ 25 := (header_spec (by decide) .ok).2
  exact (itemLoop_appendStops data keyword).listing (by decide : pktStopSearchRes ∈ packetTypes) data.stops
    (I := fun used _ => used + 2 ≤ maxPacketSize)
    (fun _ _ h => h) (fun used count _ stop _ hfull => stopRow_fits hfull) (by omega)

/-- The answer to a stop search that finds something. -/
theorem handleStopSearch_ok {keyword : Str} (h : (handleStopSearch data keyword maxPacketSize).code = .ok) :
    Lists pktStopSearchRes ((stopsListed data keyword).map (stopRow data))
      (handleStopSearch data keyword maxPacketSize).response := by
  unfold handleStopSearch at h ⊢
  by_cases hkey : (strIsBlank keyword || strContainsProtocolDelim keyword) = true
  · rw [if_pos hkey] at h
    cases h
  · rw [if_neg hkey] at h ⊢
    exact (listing_appendStops data keyword).lists h

/-- A stop whose item is shown whole: its route list is free of separators, and
the item fits the viewer's copy. -/
structure StopFits (data : AppData D) (stop : StopNode D) : Prop where
  colon : itemSep ∉ appendRoutesForStop data stop stopRoutesTextSize
  semicolon : listSep ∉ appendRoutesForStop data stop stopRoutesTextSize
  fits : stop.stopId.val.length + stop.stopName.val.length +
    (appendRoutesForStop data stop stopRoutesTextSize).length + 2 ≤ 1023

theorem cleanItem_stopRow (h : CleanTexts data) {stop : StopNode D} (hs : stop ∈ data.stops) :
    CleanItem (stopRow data stop) ↔ StopFits data stop := by
  obtain ⟨hid, hname⟩ := h.stops stop hs
  have hlen : (itemText (stopRow data stop)).length = stop.stopId.val.length + stop.stopName.val.length +
      (appendRoutesForStop data stop stopRoutesTextSize).length + 2 := by
    rw [stopRow, itemText_three]
    simp only [List.length_append, List.length_singleton]
    omega
  constructor
  · rintro ⟨hfields, hitem, hfits⟩
    unfold stopRow at hfields hitem
    exact ⟨hfields _ (by simp), hitem _ (by simp), hlen ▸ hfits⟩
  · rintro ⟨hcolon, hsemi, hfits⟩
    refine ⟨?_, ?_, hlen ▸ hfits⟩
    · simp only [stopRow, List.take_succ_cons, List.take_zero, List.forall_mem_cons]
      exact ⟨hid.free _ (by decide), hname.free _ (by decide), hcolon, List.forall_mem_nil _⟩
    · simp only [stopRow, List.forall_mem_cons]
      exact ⟨hid.free _ (by decide), hname.free _ (by decide), hsemi, List.forall_mem_nil _⟩

/-- The viewer shows the stops a search has found exactly when each fits, and
the last route list does not end in a line end. -/
theorem shownStops_iff (h : CleanTexts data) {keyword : Str}
    (hok : (handleStopSearch data keyword maxPacketSize).code = .ok) :
    shownItems 3 (handleStopSearch data keyword maxPacketSize).response =
      (stopsListed data keyword).map (stopRow data) ↔
    (∀ stop ∈ stopsListed data keyword, StopFits data stop) ∧
      stripNewline (listText ((stopsListed data keyword).map (stopRow data))) =
        listText ((stopsListed data keyword).map (stopRow data)) := by
  obtain ⟨htext, hlen⟩ := handleStopSearch_ok hok
  have hcount : ∀ row ∈ (stopsListed data keyword).map (stopRow data), row.length = 3 ∧ 2 ≤ 3 := by
    intro row hrow
    obtain ⟨stop, -, rfl⟩ := List.mem_map.mp hrow
    exact ⟨rfl, by decide⟩
  rw [htext, shownItems_eq_iff (by decide) (by decide) hcount hlen, List.forall_mem_map]
  refine and_congr_left fun _ => forall₂_congr fun stop hstop => ?_
  exact cleanItem_stopRow h (listed_subset stop hstop)

end Transit
