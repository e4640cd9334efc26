import Transit.Common.Protocol
import Transit.Common.StringUtils
import Transit.Common.Types

/-!
# Showing responses (`client/result_viewer.c`)

The viewers return what they print. What a viewer takes out of a payload
before it prints is a definition of its own.
-/

namespace Transit

open Framework (cutAt cutFields cutHead pieces tokens)

/-- The type, code and payload of a response. -/
structure Header where
  type : Str
  code : Int
  payload : Str
  deriving DecidableEq

def splitHeader (response : Str) (typeSize payloadSize : Nat) : Header :=
  let buf := stripNewline (safeStrcpy maxPacketSize response)
  match cutAt fieldSep buf with
  | none => ⟨safeStrcpy typeSize buf, ErrorCode.serverError.toInt, []⟩
  | some (p0, p1) =>
    let type := safeStrcpy typeSize p0
    if type = pktError then
      match cutAt itemSep p1 with
      | none => ⟨type, ErrorCode.serverError.toInt, []⟩
      | some (code, text) => ⟨type, atoi code, safeStrcpy payloadSize text⟩
    else
      match cutAt fieldSep p1 with
      | none => ⟨type, atoi p1, []⟩
      | some (code, p2) => ⟨type, atoi code, safeStrcpy payloadSize p2⟩

/-- How `result_viewer_show` and `response_code` take a response apart. -/
def responseHeader (response : Str) : Header := splitHeader response 64 maxPacketSize

def responseCode (response : Str) : Int := (responseHeader response).code

def nodeTypeLabel (type : Str) : Str :=
  if type == utf8 "bus_stop" then utf8 "정류장"
  else if type == utf8 "subway_station" then utf8 "지하철역"
  else utf8 "노드"

def userStateTypeLabel (type : Str) : Str :=
  if type == utf8 "stop" then utf8 "정류장"
  else if type == utf8 "bus" then utf8 "버스"
  else if type == utf8 "station" then utf8 "지하철역"
  else if type == utf8 "transfer" || type == utf8 "route" then utf8 "길찾기"
  else if type == utf8 "facility" then utf8 "편의시설"
  else type

/-! ## Lists of items -/

/-- The fields of an item: those before the first three `:`, and what is behind them. -/
def itemFields (item : Str) : List Str := cutHead itemSep 3 (safeStrcpy 1024 item)

/-- The fields of every item of a payload, in order. -/
def listFields (payload : Str) : List (List Str) :=
  (tokens listSep (safeStrcpy maxPacketSize payload)).map itemFields

/-- `"  %s: %s\n"`. -/
def fieldLine (label field : Str) : Str := utf8 "  " ++ label ++ utf8 ": " ++ field ++ [packetTerm]

/-- Every field that is there is shown behind its label; with `label4 == NULL`
there are three labels. -/
def printListItems (payload : Str) (labels : List Str) : Str :=
  ((listFields payload).mapIdx fun i fields =>
    utf8 "[" ++ fmtNat (i + 1) ++ utf8 "]\n" ++ (List.zipWith fieldLine labels fields).flatten).flatten

/-! ## Bus routes -/

/-- What the viewer takes out of a route item. -/
structure BusItem where
  routeId : Str
  routeName : Str
  start : Str
  endName : Str
  stops : List Str
  deriving DecidableEq

/-- With four fields the route has no name of its own; with fewer it is not taken apart. -/
def busItem (item : Str) : Option BusItem :=
  match cutFields itemSep 5 (safeStrcpy 2048 item) with
  | [routeId, routeName, start, endName, stops] =>
    some ⟨routeId, routeName, start, endName, pieces 44 (safeStrcpy 2048 stops)⟩
  | [routeId, start, endName, stops] =>
    some ⟨routeId, routeId, start, endName, pieces 44 (safeStrcpy 2048 stops)⟩
  | _ => none

/-- The items of a payload, each with what is taken out of it. -/
def busItems (payload : Str) : List (Str × Option BusItem) :=
  (pieces listSep (safeStrcpy maxPacketSize payload)).map fun item => (item, busItem item)

def busItemText (index : Nat) (b : BusItem) : Str :=
  utf8 "[" ++ fmtNat index ++ utf8 "]\n  노선ID: " ++ b.routeId ++ utf8 "\n  노선명: " ++ b.routeName ++
    utf8 "\n  출발: " ++ b.start ++ utf8 "\n  종점: " ++ b.endName ++ utf8 "\n  경유 정류장:\n" ++
    (b.stops.mapIdx fun i stop =>
      utf8 "    " ++ fmtNat (i + 1) ++ utf8 ". " ++ stop ++ [packetTerm]).flatten

/-- The loop over the items, `routeIndex` being the number of the next route. -/
def showBusItems : List (Str × Option BusItem) → Nat → Str
  | [], _ => []
  | (item, none) :: rest, routeIndex => item ++ [packetTerm] ++ showBusItems rest routeIndex
  | (_, some b) :: rest, routeIndex => busItemText routeIndex b ++ showBusItems rest (routeIndex + 1)

def showBusResult (payload : Str) : Str := showBusItems (busItems payload) 1

/-! ## Favourites and recent searches -/

/-- The three parts of an item, `none` where the viewer skips it. -/
def listEntry (item : Str) : Option (Str × Str × Str) :=
  match cutAt itemSep (safeStrcpy 1024 item) with
  | none => none
  | some (type, rest) =>
    match cutAt itemSep rest with
    | none => none
    | some (id, name) => some (type, id, name)

/-- The entries shown of a list payload, in order; entry `k` is shown with number `k + 1`. -/
def listEntries (payload : Str) : List (Str × Str × Str) :=
  (tokens listSep (safeStrcpy maxPacketSize payload)).filterMap listEntry

/-- `"[%d] %s | %s | %s\n"`. -/
def entryLine (index : Nat) (entry : Str × Str × Str) : Str :=
  utf8 "[" ++ fmtNat index ++ utf8 "] " ++ userStateTypeLabel entry.1 ++ utf8 " | " ++ entry.2.1 ++
    utf8 " | " ++ entry.2.2 ++ [packetTerm]

/-- The viewer of both lists: its title, and its text when there is nothing to show. -/
def showListResult (title emptyText payload : Str) : Str :=
  if strIsBlank payload then emptyText
  else
    let entries := listEntries payload
    title ++ (entries.mapIdx fun i entry => entryLine (i + 1) entry).flatten ++
      if entries = [] then emptyText else []

def showFavoriteListResult (payload : Str) : Str :=
  showListResult (utf8 "----- 즐겨찾기 목록 -----\n") (utf8 "저장된 즐겨찾기가 없습니다.\n") payload

def showRecentListResult (payload : Str) : Str :=
  showListResult (utf8 "----- 최근 검색 기록 -----\n") (utf8 "최근 검색 기록이 없습니다.\n") payload

/-! ## Paths -/

/-- The four parts of a path payload; `steps` is empty where there is no third `:`. -/
structure TransferParts where
  path : Str
  count : Str
  minutes : Str
  steps : Str
  deriving DecidableEq

def transferParts (payload : Str) : Option TransferParts :=
  match cutAt itemSep (safeStrcpy maxPacketSize payload) with
  | none => none
  | some (path, rest) =>
    match cutAt itemSep rest with
    | none => none
    | some (count, rest) =>
      match cutAt itemSep rest with
      | none => some ⟨path, count, rest, []⟩
      | some (minutes, steps) => some ⟨path, count, minutes, steps⟩

/-- The nodes `print_path_summary` prints. -/
def pathNodes (path : Str) : List Str := tokens 44 (safeStrcpy maxPacketSize path)

def splitStepFields (step : Str) (fieldCount : Nat) : List Str := cutFields 126 fieldCount step

/-- The fields of each step, in order. -/
def stepsFields (steps : Str) : List (List Str) :=
  (tokens listSep (safeStrcpy maxPacketSize steps)).map fun step =>
    splitStepFields (safeStrcpy 1024 step) 9

def printPathSummary (path : Str) : Str :=
  utf8 "최단 경로 요약: " ++ (utf8 " -> ").intercalate (pathNodes path) ++ [packetTerm]

def moveLabel (route fromType toType : Str) (outSize : Nat) : Str :=
  if route == utf8 "TRANSFER" then safeStrcpy outSize (utf8 "환승/도보 이동")
  else if fromType == utf8 "bus_stop" && toType == utf8 "bus_stop" then
    snprintf outSize (utf8 "버스 " ++ route)
  else safeStrcpy outSize route

/-- The variables of the loop over the steps. -/
structure StepsView where
  printed : Str
  transferNotes : Str
  lastRide : Str
  afterTransferBridge : Bool
  stepIndex : Nat

/-- The note a step adds below the list, if it adds one. -/
def transferNote (st : StepsView) (fromName route toName : Str) : Option Str :=
  if route == utf8 "TRANSFER" then
    some (utf8 "  - " ++ fromName ++ utf8 "에서 " ++ toName ++ utf8 "으로 환승/도보 이동\n")
  else if st.lastRide ≠ [] ∧ st.lastRide ≠ route ∧ !st.afterTransferBridge then
    some (utf8 "  - " ++ fromName ++ utf8 "에서 " ++ st.lastRide ++ utf8 " -> " ++ route ++
      utf8 " 환승\n")
  else none

def showStep (st : StepsView) (fields : List Str) : StepsView :=
  if fields.length < 8 then st
  else
    let field (i : Nat) : Str := (fields[i]?).getD []
    let fromName := field 1
    let fromType := field 2
    let route := field 3
    let toName := field 5
    let toType := field 6
    let distanceKm := field 8
    let line := utf8 "  " ++ fmtNat st.stepIndex ++ utf8 ". " ++ fromName ++ utf8 "(" ++
      nodeTypeLabel fromType ++ utf8 ") -> " ++ toName ++ utf8 "(" ++ nodeTypeLabel toType ++
      utf8 ")\n     이동수단: " ++ moveLabel route fromType toType 160 ++
      (if distanceKm ≠ [] then utf8 " / 거리 " ++ distanceKm ++ utf8 "km" else []) ++
      utf8 " / 예상 " ++ field 7 ++ utf8 "분\n"
    { printed := st.printed ++ line
      transferNotes :=
        match transferNote st fromName route toName with
        | some note => (strAppendf st.transferNotes maxPacketSize note).1
        | none => st.transferNotes
      lastRide := if route == utf8 "TRANSFER" then st.lastRide else safeStrcpy maxRouteLen route
      afterTransferBridge := route == utf8 "TRANSFER"
      stepIndex := st.stepIndex + 1 }

def showTransferResult (payload : Str) : Str :=
  match transferParts payload with
  | none => payload ++ [packetTerm]
  | some parts =>
    let summary := printPathSummary parts.path ++ utf8 "환승 횟수: " ++ parts.count ++
      utf8 "\n예상 소요시간: " ++ parts.minutes ++ utf8 "분\n"
    if parts.steps = [] then summary
    else
      let st := (stepsFields parts.steps).foldl showStep
        { printed := summary ++ utf8 "\n구간별 이동:\n", transferNotes := [], lastRide := [],
          afterTransferBridge := false, stepIndex := 1 }
      st.printed ++
        if st.transferNotes ≠ [] then utf8 "\n환승 지점:\n" ++ st.transferNotes else []

/-! ## Every response -/

def printMessagePayload (payload : Str) : Str := if payload ≠ [] then payload ++ [packetTerm] else []

/-- What a response without an error is shown as. -/
def showPayload (response type payload : Str) : Str :=
  if type = pktStopSearchRes then
    utf8 "----- 정류장 검색 결과 -----\n" ++
      printListItems payload [utf8 "정류장 ID", utf8 "정류장명", utf8 "경유 버스"]
  else if type = pktBusSearchRes then utf8 "----- 버스 노선 정보 -----\n" ++ showBusResult payload
  else if type = pktSubwaySearchRes then
    utf8 "----- 지하철역 검색 결과 -----\n" ++
      printListItems payload [utf8 "역 ID", utf8 "역명", utf8 "노선", utf8 "환승 가능 노선"]
  else if type = pktTransferRes then
    utf8 "----- 길찾기 최단 경로 -----\n" ++ showTransferResult payload
  else if type = pktFacilityRes then
    utf8 "----- 주변 편의시설 -----\n" ++
      printListItems payload [utf8 "시설명", utf8 "종류", utf8 "가까운 노드", utf8 "주소"]
  else if type = pktArrivalRes then
    printListItems payload [utf8 "노선", utf8 "노드", utf8 "도착 예정(분)", utf8 "상태"]
  else if type = pktCrowdingRes then
    printListItems payload [utf8 "노선", utf8 "노드", utf8 "시간대", utf8 "혼잡도"]
  else if type = pktFavoriteAddRes ∨ type = pktFavoriteDeleteRes then printMessagePayload payload
  else if type = pktFavoriteListRes then showFavoriteListResult payload
  else if type = pktRecentListRes then showRecentListResult payload
  else response

def resultViewerShow (response : Str) : Str :=
  let ⟨type, code, payload⟩ := responseHeader response
  if type = pktError then
    utf8 "오류: " ++ (if payload ≠ [] then payload else utf8 "요청을 처리할 수 없습니다.") ++ [packetTerm]
  else if (type = pktFavoriteAddRes ∨ type = pktFavoriteDeleteRes) ∧ payload ≠ [] then
    printMessagePayload payload
  else if code = ErrorCode.notFound.toInt then utf8 "검색 결과가 없습니다.\n"
  else if code ≠ ErrorCode.ok.toInt then utf8 "오류 코드 " ++ fmtInt code ++ [packetTerm]
  else showPayload response type payload

end Transit
