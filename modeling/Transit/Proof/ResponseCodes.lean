import Transit.Proof.BusReply
import Transit.Proof.RecordViews
import Transit.Proof.SearchViews

/-!
# The result code on both sides

Every handler starts its response with a header that has the code it returns,
and what it appends behind leaves the header as it is (`Coded`). The client
reads the code out of that header; a greeting and an answer to `PING` have
none, and `atoi` of what stands there is 0.

* `responseCode_routeRequest`: the code the client reads is the one the server
  returned, for every request.
-/

namespace Transit

open Framework

variable {D : Type} {data : AppData D}

/-- A reply that starts with a header of its own code. -/
def Coded (reply : Reply) : Prop := ∃ packet ∈ packetTypes, header packet reply.code <+: reply.response

theorem responseCode_of_coded {reply : Reply} (h : Coded reply) : responseCode reply.response = reply.code.toInt := by
  obtain ⟨packet, hp, rest, hrest⟩ := h
  unfold responseCode
  rw [← hrest, responseHeader_header hp]

/-! ## Appending -/

theorem prefix_strAppend (response : Str) (size : Nat) (text : Str) :
    response <+: (strAppend response size text).1 := by
  unfold strAppend
  split
  · exact List.prefix_rfl
  · exact List.prefix_append _ _

theorem prefix_strAppendf (response : Str) (size : Nat) (text : Str) :
    response <+: (strAppendf response size text).1 := by
  unfold strAppendf
  split
  · exact List.prefix_rfl
  · exact List.prefix_append _ _

theorem prefix_separator (response : Str) (size : Nat) (sep : Byte) (c : Prop) [Decidable c] :
    response <+: if c then (strAppend response size [sep]).1 else response := by
  split
  · exact prefix_strAppend ..
  · exact List.prefix_rfl

/-- A loop over records leaves what it has been given. -/
theorem ItemLoop.prefix_fst {α : Type} {isMatch : α → Bool} {full : Nat → Nat → α → Bool} {row : α → List Str}
    {size : Nat} {loop : List α → Str → Nat → Str × Nat} (h : ItemLoop isMatch full row size loop) (xs : List α)
    (response : Str) (count : Nat) : response <+: (loop xs response count).1 := by
  induction xs generalizing response count with
  | nil =>
    rw [h.nil]
  | cons x xs ih =>
    rw [h.cons]
    by_cases hm : isMatch x = true
    · rw [if_pos hm]
      by_cases hf : full response.length count x = true
      · rw [if_pos hf]
      · rw [if_neg hf]
        apply List.IsPrefix.trans (prefix_separator response size listSep (count > 0))
        apply List.IsPrefix.trans (prefix_strAppendf _ size (itemText (row x)))
        exact ih _ _
    · rw [if_neg hm]
      exact ih _ _

theorem prefix_appendListItems (size : Nat) (rows : List Row) (response : Str) (count : Nat) :
    response <+: appendListItems size rows response count := by
  rw [appendListItems_eq]
  exact List.prefix_append _ _

theorem prefix_foldl_put (cap : Nat) (srcs : List Str) (buf : Str) : buf <+: srcs.foldl (put cap) buf := by
  obtain ⟨tail, htail, -⟩ := @foldl_put_split _ cap srcs buf
  rw [htail]
  exact List.prefix_append _ _

theorem prefix_packRoutes (data : AppData D) (routes : List RouteNode) (response : Str) (i : Nat) :
    response <+: (packRoutes data routes (response, i)).1 := by
  induction routes generalizing response i with
  | nil => exact List.prefix_rfl
  | cons route rest ih =>
    unfold packRoutes
    by_cases hfull : BusFull response.length
    · rw [if_pos hfull]
    · rw [if_neg hfull]
      apply List.IsPrefix.trans (List.prefix_append response (busItemHead data route i))
      apply List.IsPrefix.trans (prefix_foldl_put (maxPacketSize - 1) (busStopPieces data route.stops) _)
      exact ih _ _

theorem prefix_appendNames (size : Nat) (names : List Str) (i : Nat) (response : Str) :
    response <+: appendNames size names i response := by
  induction names generalizing i response with
  | nil => exact List.prefix_rfl
  | cons name rest ih =>
    unfold appendNames
    apply List.IsPrefix.trans (prefix_separator response size nameSep (i > 0))
    apply List.IsPrefix.trans (prefix_strAppend _ size name)
    exact ih _ _

theorem prefix_appendSteps (size : Nat) (steps : List Str) (i : Nat) (response : Str) :
    response <+: appendSteps size steps i response := by
  induction steps generalizing i response with
  | nil => exact List.prefix_rfl
  | cons step rest ih =>
    unfold appendSteps
    apply List.IsPrefix.trans (prefix_separator response size listSep (i > 0))
    dsimp only
    have hstep := prefix_strAppendf (if i > 0 then (strAppend response size [listSep]).1 else response) size step
    revert hstep
    cases strAppendf (if i > 0 then (strAppend response size [listSep]).1 else response) size step with
    | mk text fits =>
      intro hstep
      cases fits with
      | true => exact hstep.trans (ih _ _)
      | false => exact hstep

/-! ## Handlers -/

theorem header_le {packet : Str} (hp : packet ∈ packetTypes) (code : ErrorCode) :
    (header packet code).length ≤ maxPacketSize - 1 :=
  Nat.le_trans (header_spec hp code).2 (by decide)

theorem coded_message {packet : Str} (hp : packet ∈ packetTypes) (code : ErrorCode) (text : Str) :
    Coded (message maxPacketSize packet code text) := by
  refine ⟨packet, hp, ?_⟩
  unfold message snprintf
  rw [List.append_assoc, List.take_append, List.take_of_length_le (header_le hp code)]
  exact List.prefix_append _ _

/-- The end of a handler that lists what it has found, if it has. -/
theorem coded_listing {packet : Str} (hp : packet ∈ packetTypes) {st : Str × Nat}
    (h : snprintf maxPacketSize (header packet .ok) <+: st.1) :
    Coded (if st.2 = 0 then notFoundReply maxPacketSize packet
      else ⟨.ok, (strAppend st.1 maxPacketSize [packetTerm]).1⟩) := by
  rw [snprintf_of_le (header_le hp .ok)] at h
  by_cases hnone : st.2 = 0
  · rw [if_pos hnone]
    exact coded_message hp .notFound []
  · rw [if_neg hnone]
    exact ⟨packet, hp, h.trans (prefix_strAppend ..)⟩

/-- The client reads the code that the server returns. -/
def Agrees (reply : Reply) : Prop := responseCode reply.response = reply.code.toInt

theorem agrees_invalidRequest : Agrees (invalidRequestReply maxPacketSize) := by
  have hresponse : (invalidRequestReply maxPacketSize).response = utf8 "ERROR|2:INVALID_REQUEST\n" :=
    snprintf_of_le (by decide)
  unfold Agrees
  rw [hresponse]
  decide

theorem agrees_message {packet : Str} (hp : packet ∈ packetTypes) (code : ErrorCode) (text : Str) :
    Agrees (message maxPacketSize packet code text) := responseCode_of_coded (coded_message hp code text)

theorem agrees_handleStopSearch (data : AppData D) (keyword : Str) :
    Agrees (handleStopSearch data keyword maxPacketSize) := by
  unfold handleStopSearch
  by_cases hkey : (strIsBlank keyword || strContainsProtocolDelim keyword) = true
  · rw [if_pos hkey]
    exact agrees_invalidRequest
  · rw [if_neg hkey]
    apply responseCode_of_coded
    apply coded_listing (by decide)
    exact (itemLoop_appendStops data keyword).prefix_fst ..

theorem agrees_handleSubwaySearch (data : AppData D) (keyword : Str) :
    Agrees (handleSubwaySearch data keyword maxPacketSize) := by
  unfold handleSubwaySearch
  by_cases hkey : (strIsBlank keyword || strContainsProtocolDelim keyword) = true
  · rw [if_pos hkey]
    exact agrees_invalidRequest
  · rw [if_neg hkey]
    apply responseCode_of_coded
    apply coded_listing (by decide)
    exact (itemLoop_appendStations keyword).prefix_fst ..

theorem agrees_handleBusSearch (data : AppData D) (keyword : Str) :
    Agrees (handleBusSearch data keyword maxPacketSize) := by
  by_cases hkey : (strIsBlank keyword || strContainsProtocolDelim keyword) = true
  · unfold handleBusSearch
    rw [if_pos hkey]
    exact agrees_invalidRequest
  · rw [Bool.not_eq_true, Bool.or_eq_false_iff] at hkey
    rw [handleBusSearch_listing hkey.1 hkey.2]
    split
    · exact agrees_message (by decide) .notFound []
    · apply responseCode_of_coded
      exact ⟨pktBusSearchRes, by decide, (prefix_packRoutes ..).trans (prefix_strAppend ..)⟩

theorem agrees_handleFacility (data : AppData D) (payload : Str) :
    Agrees (handleFacility data payload maxPacketSize) := by
  unfold handleFacility
  split
  · exact agrees_invalidRequest
  · split
    · exact agrees_invalidRequest
    · split
      · exact agrees_message (by decide) .notFound []
      · apply responseCode_of_coded
        apply coded_listing (by decide)
        exact (itemLoop_appendFacilities _ _).prefix_fst ..

theorem coded_transferResponse [CDouble D] (data : AppData D) (path : GraphPath) :
    Coded ⟨.ok, transferResponse data path maxPacketSize⟩ := by
  refine ⟨pktTransferRes, by decide, ?_⟩
  unfold transferResponse
  rw [snprintf_of_le (header_le (by decide) .ok)]
  apply (prefix_appendNames ..).trans
  apply (prefix_strAppendf ..).trans
  apply (prefix_appendSteps ..).trans
  exact prefix_strAppend ..

theorem agrees_handleTransfer [CDouble D] (mem : Bool) (data : AppData D) (payload : Str) :
    Agrees (handleTransfer mem data payload maxPacketSize) := by
  unfold handleTransfer
  split
  · exact agrees_invalidRequest
  · split
    · exact agrees_invalidRequest
    · split
      · exact agrees_message (by decide) .notFound []
      · exact responseCode_of_coded (coded_transferResponse data _)

theorem agrees_handleArrival (data : AppData D) (payload : Str) :
    Agrees (handleArrival data payload maxPacketSize) := by
  unfold handleArrival
  split
  · exact agrees_invalidRequest
  · split
    · exact agrees_message (by decide) .notFound []
    · exact agrees_message (by decide) .ok _

theorem agrees_handleCrowding (data : AppData D) (payload : Str) :
    Agrees (handleCrowding data payload maxPacketSize) := by
  unfold handleCrowding
  split
  · exact agrees_invalidRequest
  · split
    · exact agrees_message (by decide) .notFound []
    · exact agrees_message (by decide) .ok _

/-- Of the file operations, every outcome has a message of its own. -/
theorem agrees_handleFavoriteAdd (io : Io) (data : AppData D) (fs : UserFiles) (payload : Str) :
    Agrees (handleFavoriteAdd io data fs payload maxPacketSize).1 := by
  unfold handleFavoriteAdd
  split
  · exact agrees_invalidRequest
  · split
    · exact agrees_message (by decide) .notFound _
    · split
      · exact agrees_message (by decide) .ok _
      · split
        · exact agrees_message (by decide) .serverError _
        · exact agrees_message (by decide) .ok _

theorem agrees_handleFavoriteDelete (io : Io) (fs : UserFiles) (payload : Str) :
    Agrees (handleFavoriteDelete io fs payload maxPacketSize).1 := by
  unfold handleFavoriteDelete
  split
  · exact agrees_invalidRequest
  · split
    · exact agrees_invalidRequest
    · split
      · exact agrees_message (by decide) .ok _
      · split
        · exact agrees_message (by decide) .serverError _
        · dsimp only
          split
          · exact agrees_message (by decide) .ok _
          · split
            · exact agrees_message (by decide) .serverError _
            · split
              · exact agrees_message (by decide) .serverError _
              · exact agrees_message (by decide) .ok _

/-- A list response, of whatever rows. -/
theorem agrees_list {packet : Str} (hp : packet ∈ packetTypes) (rows : Option (List Row)) :
    Agrees (match rows with
      | none => ⟨.ok, (strAppend (snprintf maxPacketSize (header packet .ok)) maxPacketSize [packetTerm]).1⟩
      | some rows => ⟨.ok, (strAppend (appendListItems maxPacketSize rows
          (snprintf maxPacketSize (header packet .ok)) 0) maxPacketSize [packetTerm]).1⟩) := by
  rw [snprintf_of_le (header_le hp .ok)]
  apply responseCode_of_coded
  cases rows with
  | none => exact ⟨packet, hp, prefix_strAppend ..⟩
  | some rows => exact ⟨packet, hp, (prefix_appendListItems ..).trans (prefix_strAppend ..)⟩

theorem agrees_handleFavoriteList (io : Io) (fs : UserFiles) : Agrees (handleFavoriteList io fs maxPacketSize) := by
  have hlist := agrees_list (by decide : pktFavoriteListRes ∈ packetTypes)
    ((io.read fs.favorites).map fun file => (fgetsAll 1024 file).filterMap favoriteRow)
  unfold handleFavoriteList
  cases hfile : io.read fs.favorites with
  | none =>
    rw [hfile] at hlist
    exact hlist
  | some file =>
    rw [hfile] at hlist
    exact hlist

theorem agrees_handleRecentList (io : Io) (fs : UserFiles) : Agrees (handleRecentList io fs maxPacketSize) := by
  have hlist := agrees_list (by decide : pktRecentListRes ∈ packetTypes)
    ((io.read fs.recent).map fun file => (listedRecords file).reverse.filterMap splitRecord)
  unfold handleRecentList
  cases hfile : io.read fs.recent with
  | none =>
    rw [hfile] at hlist
    exact hlist
  | some file =>
    rw [hfile] at hlist
    exact hlist

/-! ## Every request -/

theorem agrees_ite {c : Prop} [Decidable c] {a b : Reply × UserFiles} (ha : Agrees a.1) (hb : Agrees b.1) :
    Agrees (if c then a else b).1 := by
  split
  · exact ha
  · exact hb

/-- The code that the client takes out of a response is the one that
`route_request` returned, whatever the store, the files and the request. -/
theorem responseCode_routeRequest [CDouble D] (data : AppData D) (env : Env) (fs : UserFiles)
    (request : List Byte) :
    responseCode (routeRequest data env fs request maxPacketSize).1.response =
      (routeRequest data env fs request maxPacketSize).1.code.toInt := by
  unfold routeRequest
  dsimp only
  refine agrees_ite ?_ <| agrees_ite ?_ <| agrees_ite (agrees_handleStopSearch ..) <|
    agrees_ite (agrees_handleBusSearch ..) <| agrees_ite (agrees_handleSubwaySearch ..) <|
    agrees_ite (agrees_handleTransfer ..) <| agrees_ite (agrees_handleFacility ..) <|
    agrees_ite (agrees_handleArrival ..) <| agrees_ite (agrees_handleCrowding ..) <|
    agrees_ite (agrees_handleFavoriteAdd ..) <| agrees_ite (agrees_handleFavoriteList ..) <|
    agrees_ite (agrees_handleFavoriteDelete ..) <| agrees_ite (agrees_handleRecentList ..) agrees_invalidRequest
  · -- a greeting has a text where the code would be
    have htext : snprintf maxPacketSize (pktHelloRes ++ [fieldSep] ++ utf8 "OK" ++ [itemSep] ++ serverVersion ++
        [packetTerm]) = utf8 "HELLO_RES|OK:1.0.0\n" := snprintf_of_le (by decide)
    unfold Agrees
    rw [htext]
    show responseCode (utf8 "HELLO_RES|OK:1.0.0\n") = 0
    decide
  · have htext : snprintf maxPacketSize (pktPong ++ [fieldSep, packetTerm]) = utf8 "PONG|\n" :=
      snprintf_of_le (by decide)
    unfold Agrees
    rw [htext]
    show responseCode (utf8 "PONG|\n") = 0
    decide

end Transit
