import Transit.Common.LinkedList
import Transit.Common.Protocol

/-!
# Stop, bus and subway searches (`server/search_service.c`)
-/

namespace Transit

variable {D : Type}

abbrev stopSearchMaxResults : Nat := 100
abbrev stopRoutesTextSize : Nat := 4096

/-! ## Stop ids that name the same stop -/

def parseStopAliasNumber (stopId : Str) : Option Int :=
  if !(utf8 "STOP_").isPrefixOf stopId || !((stopId.drop 5).head?.any isdigit) then none
  else
    let (value, rest) := strtol (stopId.drop 5)
    if rest = [] then some value else none

def parseNodeTailNumber (stopId : Str) : Option Int :=
  if stopId.length ≤ 3 then none
  else if !stopId.all isdigit then none
  else
    let (value, rest) := strtol (stopId.drop 3)
    if rest = [] then some value else none

def stopIdsAliasMatch (aliasId nodeId : Str) : Bool :=
  match parseStopAliasNumber aliasId, parseNodeTailNumber nodeId with
  | some aliasNo, some nodeNo => aliasNo == nodeNo
  | _, _ => false

/-! ## Route labels -/

/-- The digits behind the area code of a route id; `out` is what is stored even where the function
returns 0. -/
def routeNumberFromRouteId (routeNo : Str) (outSize : Nat) : Option Str :=
  if (utf8 "285000").isPrefixOf routeNo || (utf8 "288000").isPrefixOf routeNo ||
      (utf8 "298000").isPrefixOf routeNo then
    let suffix := skipZeros (routeNo.drop 6)
    let out := safeStrcpy outSize suffix
    if strIsBlank out then none else some out
  else none
where
  /-- `while (*suffix == '0' && suffix[1])`. -/
  skipZeros : Str → Str
    | c :: d :: rest => if c = 48 then skipZeros (d :: rest) else c :: d :: rest
    | s => s

/-- The words that mark a route as not in service. -/
def inactiveWords : List Str :=
  [utf8 "테스트", utf8 "노선명 미상", utf8 "미상", utf8 "신규", utf8 "수정", utf8 "추가",
    utf8 "삭제", utf8 "변경", utf8 "개편", utf8 "적용", utf8 "링크", utf8 "정류장", utf8 "회차지",
    utf8 "상행", utf8 "하행", utf8 "미경유", utf8 "노선"]

def routeNameIsInactive (name : Str) : Bool :=
  strIsBlank name || inactiveWords.any (fun word => (strstr name word).isSome) || name.contains 95

/-- `if (starts_with_text(p, "번")) p += strlen("번");` -/
def skipBeon (p : Str) : Str :=
  if (utf8 "번").isPrefixOf p then p.drop (utf8 "번").length else p

/-- The digits and hyphens at the front, at most 31 of them, and the text behind. -/
def routeNumberToken (p : Str) : Str × Str :=
  let token := (p.takeWhile fun c => isdigit c || c == 45).take 31
  (token, p.drop token.length)

def copyPrefixedRouteNumber (name pfx labelPrefix : Str) (appendBeon : Bool) (outSize : Nat) :
    Option Str :=
  match strstr name pfx with
  | none => none
  | some pos =>
    let p := (pos.drop pfx.length).dropWhile isspace
    if !(p.head?.any isdigit) then none
    else
      let (number, p) := routeNumberToken p
      let p := (skipBeon (p.dropWhile isspace)).dropWhile isspace
      if p ≠ [] then none
      else
        some (snprintf outSize
          (labelPrefix ++ number ++ if appendBeon then utf8 "번" else []))

/-- `digits` has `digit_count` digits; `after` is the text behind the number. -/
def looksLikeDateNumber (digits after : Str) : Bool :=
  let digit (i : Nat) : Int := (((digits[i]?).getD 0).toNat : Int) - 48
  let month := digit 0 * 10 + digit 1
  let day := digit 2 * 10 + digit 3
  if digits.length ≥ 6 then true
  else if digits.length = 4 ∧ (after.head? = some 95 ∨ after.head? = some 45) ∧
      1 ≤ month ∧ month ≤ 12 ∧ 1 ≤ day ∧ day ≤ 31 then true
  else if digits.length = 4 ∧ (digit 0 = 0 ∨ (digit 0 = 1 ∧ digit 1 = 8) ∨
      (digit 0 = 2 ∧ digit 1 = 0)) then true
  else (utf8 "월").isPrefixOf after || (utf8 "일").isPrefixOf after

def extractNumericRouteNumber (name : Str) (outSize : Nat) : Option Str :=
  let p := name.dropWhile isspace
  if !(p.head?.any isdigit) then none
  else
    let (token, p) := routeNumberToken p
    let digits := token.filter isdigit
    if digits.length = 0 ∨ digits.length > 4 ∨ looksLikeDateNumber digits p then none
    else
      let p := (skipBeon p).dropWhile isspace
      if p ≠ [] then none else some (snprintf outSize (token ++ utf8 "번"))

def routeDisplayName (route : RouteNode) (outSize : Nat) : Option Str :=
  let name : Str := if strIsBlank route.routeName then route.routeNo else route.routeName
  if routeNameIsInactive name then none
  else if (strstr name (utf8 "방면")).isSome then
    match routeNumberFromRouteId route.routeNo 32 with
    | some routeNumber => some (snprintf outSize (routeNumber ++ utf8 "번 - " ++ name))
    | none => some (snprintf outSize (utf8 "노선ID " ++ route.routeNo.val ++ utf8 " - " ++ name))
  else
    (copyPrefixedRouteNumber name (utf8 "마중") (utf8 "마중") false outSize).or <|
    (copyPrefixedRouteNumber name (utf8 "순환") (utf8 "순환") true outSize).or <|
    (copyPrefixedRouteNumber name (utf8 "순") (utf8 "순환") true outSize).or <|
    (copyPrefixedRouteNumber name (utf8 "공영") (utf8 "공영 ") false outSize).or <|
    extractNumericRouteNumber name outSize

def routeDisplayLabel (data : AppData D) (route : RouteNode) (outSize : Nat) : Option Str :=
  match routeDisplayName route maxRouteLen with
  | none => none
  | some base =>
    if (strstr base (utf8 "방면")).isSome then some (safeStrcpy outSize base)
    else
      let destination := findNodeNameById data route.endStopId
      if !strIsBlank destination && destination != route.endStopId.val &&
          (strstr destination (utf8 "정류장명 미상")).isNone then
        some (snprintf outSize (base ++ utf8 " - " ++ destination ++ utf8 " 방면"))
      else some (safeStrcpy outSize base)

/-! ## Routes listed once -/

def routeKeyExists (keys routeKey : Str) : Bool :=
  routeKey ≠ [] && (strstr keys (snprintf (maxRouteLen + 4) ([124] ++ routeKey ++ [124]))).isSome

/-- The new `keys`, and whether the route is new. -/
def markBusRouteSeen (data : AppData D) (route : RouteNode) (keys : Str) (keysSize : Nat) :
    Str × Bool :=
  match routeDisplayLabel data route maxRouteLen with
  | none => (keys, false)
  | some label =>
    let key := snprintf (maxRouteLen + maxNameLen * 2 + 8)
      (label ++ utf8 ">" ++ findNodeNameById data route.startStopId ++ utf8 ">" ++
        findNodeNameById data route.endStopId)
    if routeKeyExists keys key then (keys, false)
    else strAppendf keys keysSize ([124] ++ key ++ [124])

/-! ## Stop search -/

/-- The buffers `routes` and `route_keys`. -/
structure RouteTexts where
  routes : Str
  routeKeys : Str

/-- What `append_route_item` writes for a route: its label, with the arrival
time and the crowding in parentheses if there is one. -/
def appendRouteText (routes : Str) (size : Nat) (label : Str) (arrival : Option ArrivalNode)
    (crowding : Option CrowdingNode) : Str :=
  let routes := if routes ≠ [] then (strAppend routes size [44]).1 else routes
  if arrival.isSome || crowding.isSome then
    let routes := (strAppendf routes size (label ++ [40])).1
    let routes :=
      match arrival with
      | some arrival =>
        (strAppendf routes size (fmtInt arrival.arrivalMinutes ++ utf8 "분/" ++ arrival.status.val)).1
      | none => (strAppend routes size (utf8 "도착정보없음")).1
    let routes :=
      match crowding with
      | some crowding => (strAppendf routes size ([47] ++ crowding.crowdingLevel.val)).1
      | none => routes
    (strAppend routes size [41]).1
  else (strAppend routes size label).1

/-- The buffers after the call, and whether it returned 1. -/
def appendRouteItem (data : AppData D) (stopId : Str) (route : RouteNode) (size keysSize : Nat)
    (st : RouteTexts) : RouteTexts × Bool :=
  match routeDisplayLabel data route maxRouteLen with
  | none => (st, false)
  | some label =>
    if routeKeyExists st.routeKeys label then (st, false)
    else
      match strAppendf st.routeKeys keysSize ([124] ++ label ++ [124]) with
      | (keys, false) => ({ st with routeKeys := keys }, false)
      | (keys, true) =>
        ({ routes := appendRouteText st.routes size label
             (findArrival data stopId route.routeNo (utf8 "morning"))
             (findCrowding data stopId route.routeNo (utf8 "morning"))
           routeKeys := keys }, true)

/-- The loop over the routes: the buffers and the count. -/
def appendRoutesForStopId (data : AppData D) (stopId : Str) (size keysSize : Nat)
    (st : RouteTexts × Nat) : RouteTexts × Nat :=
  data.routes.foldl (fun (st, count) route =>
    if routeHasStop route stopId then
      match appendRouteItem data stopId route size keysSize st with
      | (st, true) => (st, count + 1)
      | (st, false) => (st, count)
    else (st, count)) st

def appendRoutesForAliasStopIds (data : AppData D) (stop : StopNode D) (size keysSize : Nat)
    (st : RouteTexts × Nat) : RouteTexts × Nat :=
  data.stops.foldl (fun st other =>
    if other.stopId.val == stop.stopId.val then st
    else if stopIdsAliasMatch stop.stopId other.stopId then
      appendRoutesForStopId data other.stopId size keysSize st
    else st) st

/-- The text of the routes through a stop. -/
def appendRoutesForStop (data : AppData D) (stop : StopNode D) (size : Nat) : Str :=
  let st := appendRoutesForStopId data stop.stopId size stopRoutesTextSize (⟨[], []⟩, 0)
  let (st, count) :=
    if st.2 = 0 then appendRoutesForAliasStopIds data stop size stopRoutesTextSize st else st
  if count = 0 ∨ st.routes = [] then safeStrcpy size (utf8 "-") else st.routes

def stopMatches (keyword : Str) (cur : StopNode D) : Bool :=
  keywordMatch cur.stopName keyword || cur.stopId.val == keyword

/-- The loop over the stops: the response and the number of items in it. -/
def appendStops (data : AppData D) (keyword : Str) (size : Nat) :
    List (StopNode D) → Str → Nat → Str × Nat
  | [], response, count => (response, count)
  | cur :: rest, response, count =>
    if stopMatches keyword cur then
      if count ≥ stopSearchMaxResults then (response, count)
      else
        let routes := appendRoutesForStop data cur stopRoutesTextSize
        let needed := cur.stopId.val.length + cur.stopName.val.length + routes.length + 4
        if response.length + needed ≥ size then (response, count)
        else
          let response := if count > 0 then (strAppend response size [listSep]).1 else response
          appendStops data keyword size rest
            (strAppendf response size
              (cur.stopId.val ++ [itemSep] ++ cur.stopName.val ++ [itemSep] ++ routes)).1 (count + 1)
    else appendStops data keyword size rest response count

def handleStopSearch (data : AppData D) (keyword : Str) (size : Nat) : Reply :=
  if strIsBlank keyword || strContainsProtocolDelim keyword then invalidRequestReply size
  else
    let (response, count) := appendStops data keyword size data.stops
      (snprintf size (header pktStopSearchRes .ok)) 0
    if count = 0 then notFoundReply size pktStopSearchRes
    else ⟨.ok, (strAppend response size [packetTerm]).1⟩

/-! ## Bus search -/

/-- The text without its spaces, cut to the size of the buffer. -/
def compactSpaces (src : Str) (dstSize : Nat) : Str :=
  (src.filter fun c => !isspace c).take (dstSize - 1)

def leadingDigits (src : Str) (dstSize : Nat) : Str := (src.takeWhile isdigit).take (dstSize - 1)

def routeMatchRank (route : RouteNode) (keyword : Str) : Nat :=
  if strIsBlank keyword || routeNameIsInactive route.routeName then 0
  else if route.routeNo.val == keyword || route.routeName.val == keyword then 1
  else
    let query := compactSpaces keyword 128
    let name := compactSpaces route.routeName 256
    if name == query then 1
    else
      let queryDigits := leadingDigits query 64
      let nameDigits := leadingDigits name 64
      if queryDigits ≠ [] then
        if nameDigits ≠ [] ∧ queryDigits = nameDigits then 2
        else if nameDigits = [] ∧ (strstr route.routeName (utf8 "방면")).isSome ∧
            routeNumberFromRouteId route.routeNo 64 = some queryDigits then 2
        else 0
      else if keywordMatch route.routeName keyword then 3 else 0

/-- The loop over the stops of a route, `count` of them being written. -/
def appendStopNames (data : AppData D) (size : Nat) : List RouteStopNode → Str → Nat → Str × Nat
  | [], response, count => (response, count)
  | cur :: rest, response, count =>
    let response := if count > 0 then (strAppend response size [44]).1 else response
    appendStopNames data size rest (strAppend response size (findNodeNameById data cur.stopId)).1
      (count + 1)

/-- The response after the call, and whether it returned 1. -/
def appendBusRouteItem (data : AppData D) (route : RouteNode) (response : Str) (size itemIndex : Nat) :
    Str × Bool :=
  match routeDisplayLabel data route maxRouteLen with
  | none => (response, false)
  | some routeLabel =>
    if response.length + 700 ≥ size then (response, false)
    else
      let response := if itemIndex > 0 then (strAppend response size [listSep]).1 else response
      match strAppendf response size
          (route.routeNo.val ++ [itemSep] ++ routeLabel ++ [itemSep] ++
            findNodeNameById data route.startStopId ++ [itemSep] ++
            findNodeNameById data route.endStopId ++ [itemSep]) with
      | (response, false) => (response, false)
      | (response, true) =>
        let (response, count) := appendStopNames data size route.stops response 0
        if count = 0 then ((strAppend response size [45]).1, true) else (response, true)

/-- The variables of the loops of `handle_bus_search`. -/
structure BusListing where
  routeKeys : Str
  response : Str
  matchCount : Nat

/-- The inner loop: the routes of one rank. -/
def appendBusRoutes (data : AppData D) (keyword : Str) (size rank : Nat) :
    List RouteNode → BusListing → BusListing
  | [], st => st
  | route :: rest, st =>
    if routeMatchRank route keyword = rank then
      match markBusRouteSeen data route st.routeKeys stopRoutesTextSize with
      | (keys, false) => appendBusRoutes data keyword size rank rest { st with routeKeys := keys }
      | (keys, true) =>
        if st.matchCount ≥ 10 then { st with routeKeys := keys }
        else
          match appendBusRouteItem data route st.response size st.matchCount with
          | (response, false) => { st with routeKeys := keys, response := response }
          | (response, true) =>
            appendBusRoutes data keyword size rank rest
              { routeKeys := keys, response := response, matchCount := st.matchCount + 1 }
    else appendBusRoutes data keyword size rank rest st

/-- One round of the outer loop. -/
def appendBusRank (data : AppData D) (keyword : Str) (size : Nat) (st : BusListing) (rank : Nat) :
    BusListing :=
  if st.matchCount < 10 then appendBusRoutes data keyword size rank data.routes st else st

def handleBusSearch (data : AppData D) (keyword : Str) (size : Nat) : Reply :=
  if strIsBlank keyword || strContainsProtocolDelim keyword then invalidRequestReply size
  else
    let st := [1, 2, 3].foldl (appendBusRank data keyword size)
      { routeKeys := [], response := snprintf size (header pktBusSearchRes .ok), matchCount := 0 }
    if st.matchCount = 0 then notFoundReply size pktBusSearchRes
    else ⟨.ok, (strAppend st.response size [packetTerm]).1⟩

/-! ## Subway search -/

def stationMatches (keyword : Str) (cur : StationNode D) : Bool :=
  keywordMatch cur.stationName keyword || keywordMatch cur.lineNo keyword ||
    keywordMatch cur.transferLines keyword || keywordMatch cur.address keyword ||
    cur.stationId.val == keyword

/-- The loop over the stations: the response and the number of items in it. -/
def appendStations (keyword : Str) (size : Nat) : List (StationNode D) → Str → Nat → Str × Nat
  | [], response, count => (response, count)
  | cur :: rest, response, count =>
    if stationMatches keyword cur then
      if response.length + 300 ≥ size ∨ count ≥ 20 then (response, count)
      else
        let response := if count > 0 then (strAppend response size [listSep]).1 else response
        appendStations keyword size rest
          (strAppendf response size
            (cur.stationId.val ++ [itemSep] ++ cur.stationName.val ++ [itemSep] ++ cur.lineNo.val ++
              [itemSep] ++ if cur.transferLines.val ≠ [] then cur.transferLines.val else [45])).1
          (count + 1)
    else appendStations keyword size rest response count

def handleSubwaySearch (data : AppData D) (keyword : Str) (size : Nat) : Reply :=
  if strIsBlank keyword || strContainsProtocolDelim keyword then invalidRequestReply size
  else
    let (response, count) := appendStations keyword size data.stations
      (snprintf size (header pktSubwaySearchRes .ok)) 0
    if count = 0 then notFoundReply size pktSubwaySearchRes
    else ⟨.ok, (strAppend response size [packetTerm]).1⟩

end Transit
