import Transit.Client.Menu
import Transit.Client.ResultViewer

/-!
# The client's screen (`client/main.c`, `menu.c`, `favorite.c`, `recent_search.c`)

The menus again, with what they print. An `Act` is a text that is printed, or a
request that is sent and whose response is read and shown before the next act.
Sending and receiving succeed.
-/

namespace Transit

inductive Act where
  | print (text : Str)
  /-- `client_send_line` and `client_recv_line` of `main`: the response is printed as it is. -/
  | greet (request : Str)
  /-- `client_send_request`. -/
  | ask (request : Str)
  deriving DecidableEq

def Act.request : Act → Option Str
  | print _ => none
  | greet request => some request
  | ask request => some request

def invalidInput : Act := .print (utf8 "입력값을 다시 확인해주세요.\n")

def printMenu : Act := .print (utf8 ("\n===== 아산/천안 대중교통 정보 시스템 =====\n\n" ++
  "1. 정류장 검색\n" ++ "2. 버스 번호 검색\n" ++ "3. 지하철역 검색\n" ++ "4. 길찾기(최단 경로)\n" ++
  "5. 주변 편의시설 조회\n" ++ "6. 즐겨찾기 조회\n" ++ "7. 즐겨찾기 추가\n" ++ "8. 즐겨찾기 삭제\n" ++
  "9. 최근 검색 기록\n" ++ "0. 종료\n"))

def singleKeywordActs (requestType prompt : Str) (keywordSize : Nat) (console : List Byte) : List Act × List Byte :=
  match readNonemptyInput keywordSize console with
  | (none, console) => ([.print prompt, invalidInput], console)
  | (some keyword, console) => ([.print prompt, .ask (requestLine requestType keyword)], console)

def routeSearchActs (startPrompt endPrompt : Str) (fieldSize : Nat) (console : List Byte) : List Act × List Byte :=
  match readLinePrompt fieldSize console with
  | none => ([.print startPrompt, invalidInput], console)
  | some (startName, console) =>
    match readLinePrompt fieldSize console with
    | none => ([.print startPrompt, .print endPrompt, invalidInput], console)
    | some (endName, console) =>
      ([.print startPrompt, .print endPrompt,
        if strIsBlank startName || strIsBlank endName then invalidInput
        else .ask (requestLine pktTransferReq (startName ++ [itemSep] ++ endName))], console)

def facilityActs (fieldSize : Nat) (console : List Byte) : List Act × List Byte :=
  let placePrompt := Act.print (utf8 "정류장/역명 입력: ")
  let categoryPrompt := Act.print (utf8 "카테고리 입력: ")
  match readLinePrompt fieldSize console with
  | none => ([placePrompt, invalidInput], console)
  | some (placeName, console) =>
    match readLinePrompt fieldSize console with
    | none => ([placePrompt, categoryPrompt, invalidInput], console)
    | some (category, console) =>
      ([placePrompt, categoryPrompt,
        if strIsBlank placeName then invalidInput
        else
          let category := if strIsBlank category then safeStrcpy fieldSize (utf8 "all") else category
          .ask (requestLine pktFacilityReq (placeName ++ [itemSep] ++ category))], console)

def favoriteAddAct (type id name : Str) : Act :=
  if strIsBlank type || strIsBlank id || strIsBlank name || containsRequestSep type ||
      containsRequestSep id || containsRequestSep name then invalidInput
  else .ask (requestLine pktFavoriteAddReq (type ++ [itemSep] ++ id ++ [itemSep] ++ name))

def favoriteListAct : Act := .ask (requestLine pktFavoriteListReq [])

def favoriteDeleteAct (index : Int) : Act :=
  if index ≤ 0 then .print (utf8 "삭제할 번호를 다시 확인해주세요.\n")
  else .ask (requestLine pktFavoriteDeleteReq (fmtInt index))

def recentListAct : Act := .ask (requestLine pktRecentListReq [])

/-- `target_prompt`. -/
def targetPrompt (type : Str) : Str :=
  if type = utf8 "1" ∨ type = utf8 "정류장" ∨ type = utf8 "버스정류장" ∨ type = utf8 "stop" then
    utf8 "정류장명 입력: "
  else if type = utf8 "2" ∨ type = utf8 "버스" ∨ type = utf8 "버스번호" ∨ type = utf8 "노선" ∨ type = utf8 "bus" then
    utf8 "버스명 입력: "
  else if type = utf8 "3" ∨ type = utf8 "지하철역" ∨ type = utf8 "역" ∨ type = utf8 "station" then
    utf8 "지하철역명 입력: "
  else utf8 "항목명 입력: "

def favoriteAddActs (console : List Byte) : List Act × List Byte :=
  let typePrompts := [Act.print (utf8 "유형 선택: 1. 정류장  2. 버스  3. 지하철역\n"),
    .print (utf8 "유형 입력(번호 또는 한글): ")]
  match readLinePrompt 64 console with
  | none => (typePrompts, console)
  | some (type, console) =>
    let prompts := typePrompts ++ [.print (targetPrompt type)]
    match readLinePrompt 128 console with
    | none => (prompts, console)
    | some (targetValue, console) =>
      let prompts := prompts ++ [.print (utf8 "표시 이름 입력: ")]
      match readLinePrompt 128 console with
      | none => (prompts, console)
      | some (displayName, console) => (prompts ++ [favoriteAddAct type targetValue displayName], console)

def favoriteDeleteActs (inputSize : Nat) (console : List Byte) : List Act × List Byte :=
  let prompts := [favoriteListAct, .print (utf8 "삭제할 번호 입력: ")]
  match readLinePrompt inputSize console with
  | none => (prompts ++ [invalidInput], console)
  | some (menuInput, console) =>
    match strToInt menuInput with
    | none => (prompts ++ [invalidInput], console)
    | some targetIndex =>
      (prompts ++ [if targetIndex ≤ 0 then invalidInput else favoriteDeleteAct targetIndex], console)

/-- What one choice of the main menu does. -/
def choiceActs (choice : Str) (console : List Byte) : List Act × List Byte :=
  if choice = utf8 "1" then singleKeywordActs pktStopSearchReq (utf8 "정류장명 또는 키워드 입력: ") 256 console
  else if choice = utf8 "2" then singleKeywordActs pktBusSearchReq (utf8 "버스 번호 입력: ") 256 console
  else if choice = utf8 "3" then singleKeywordActs pktSubwaySearchReq (utf8 "역명 또는 키워드 입력: ") 256 console
  else if choice = utf8 "4" then routeSearchActs (utf8 "탑승 위치 입력: ") (utf8 "도착 위치 입력: ") 256 console
  else if choice = utf8 "5" then facilityActs 256 console
  else if choice = utf8 "6" then ([favoriteListAct], console)
  else if choice = utf8 "7" then favoriteAddActs console
  else if choice = utf8 "8" then favoriteDeleteActs 256 console
  else if choice = utf8 "9" then ([recentListAct], console)
  else ([invalidInput], console)

/-- The loop of `menu_loop`, at most `fuel` rounds of it. -/
def menuActs : (fuel : Nat) → (console : List Byte) → List Act
  | 0, _ => []
  | fuel + 1, console =>
    let prompts := [printMenu, .print (utf8 "메뉴 선택: ")]
    match readLinePrompt 16 console with
    | none => prompts
    | some (choice, console) =>
      if choice = utf8 "0" then prompts
      else
        let (acts, console) := choiceActs choice console
        prompts ++ acts ++ menuActs fuel console

/-- A run of the client from where it is connected; the menu is shown once more than there are lines. -/
def clientActs (console : List Byte) : List Act :=
  .greet (utf8 "HELLO|console_client\n") :: menuActs (console.length + 1) console

/-- What is on the screen when these responses have been read: an act that waits
for its response holds back those behind it. -/
def screen : List Act → (responses : List Str) → Str
  | [], _ => []
  | .print text :: acts, responses => text ++ screen acts responses
  | .greet _ :: _, [] => []
  | .greet _ :: acts, response :: responses => cstr response ++ screen acts responses
  | .ask _ :: _, [] => []
  | .ask _ :: acts, response :: responses => resultViewerShow (cstr response) ++ screen acts responses

end Transit
