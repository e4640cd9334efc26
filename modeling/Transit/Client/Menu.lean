import Transit.Common.Protocol
import Transit.Common.StringUtils

/-!
# The menus and the requests they send (`client/menu.c`, `favorite.c`, `recent_search.c`)

`console` is what is left of the standard input. A menu returns the requests
it sends, in order, and the input it leaves; what it prints is left out. No
menu looks at a response.
-/

namespace Transit

/-- The trimmed line in `buf`, and the rest of the input. -/
def readLinePrompt (size : Nat) (console : List Byte) : Option (Str × List Byte) :=
  match fgets size console with
  | none => none
  | some (line, rest) => some (strTrim (stripNewline (cstr line)), rest)

def readNonemptyInput (size : Nat) (console : List Byte) : Option Str × List Byte :=
  match readLinePrompt size console with
  | none => (none, console)
  | some (buf, rest) => (if strIsBlank buf then none else some buf, rest)

/-- `"%s|%s\n"` in `request[MAX_PACKET_SIZE]`. -/
def requestLine (packet body : Str) : Str :=
  snprintf maxPacketSize (packet ++ [fieldSep] ++ body ++ [packetTerm])

def runSingleKeywordMenu (requestType : Str) (keywordSize : Nat) (console : List Byte) :
    List Str × List Byte :=
  match readNonemptyInput keywordSize console with
  | (none, console) => ([], console)
  | (some keyword, console) => ([requestLine requestType keyword], console)

def runRouteSearchMenu (fieldSize : Nat) (console : List Byte) : List Str × List Byte :=
  match readLinePrompt fieldSize console with
  | none => ([], console)
  | some (startName, console) =>
    match readLinePrompt fieldSize console with
    | none => ([], console)
    | some (endName, console) =>
      if strIsBlank startName || strIsBlank endName then ([], console)
      else ([requestLine pktTransferReq (startName ++ [itemSep] ++ endName)], console)

def runFacilityMenu (fieldSize : Nat) (console : List Byte) : List Str × List Byte :=
  match readLinePrompt fieldSize console with
  | none => ([], console)
  | some (placeName, console) =>
    match readLinePrompt fieldSize console with
    | none => ([], console)
    | some (category, console) =>
      if strIsBlank placeName then ([], console)
      else
        let category := if strIsBlank category then safeStrcpy fieldSize (utf8 "all") else category
        ([requestLine pktFacilityReq (placeName ++ [itemSep] ++ category)], console)

def containsRequestSep (value : Str) : Bool :=
  strContainsProtocolDelim value || value.contains itemSep

def favoriteAdd (type id name : Str) : List Str :=
  if strIsBlank type || strIsBlank id || strIsBlank name || containsRequestSep type ||
      containsRequestSep id || containsRequestSep name then []
  else [requestLine pktFavoriteAddReq (type ++ [itemSep] ++ id ++ [itemSep] ++ name)]

def favoriteList : List Str := [requestLine pktFavoriteListReq []]

def favoriteDelete (index : Int) : List Str :=
  if index ≤ 0 then [] else [requestLine pktFavoriteDeleteReq (fmtInt index)]

def recentList : List Str := [requestLine pktRecentListReq []]

def runFavoriteAddMenu (console : List Byte) : List Str × List Byte :=
  match readLinePrompt 64 console with
  | none => ([], console)
  | some (type, console) =>
    match readLinePrompt 128 console with
    | none => ([], console)
    | some (targetValue, console) =>
      match readLinePrompt 128 console with
      | none => ([], console)
      | some (displayName, console) => (favoriteAdd type targetValue displayName, console)

def runFavoriteDeleteMenu (inputSize : Nat) (console : List Byte) : List Str × List Byte :=
  match readLinePrompt inputSize console with
  | none => (favoriteList, console)
  | some (menuInput, console) =>
    match strToInt menuInput with
    | none => (favoriteList, console)
    | some targetIndex => (favoriteList ++ favoriteDelete targetIndex, console)

/-- What one choice of the main menu does. -/
def menuChoice (choice : Str) (console : List Byte) : List Str × List Byte :=
  if choice = utf8 "1" then runSingleKeywordMenu pktStopSearchReq 256 console
  else if choice = utf8 "2" then runSingleKeywordMenu pktBusSearchReq 256 console
  else if choice = utf8 "3" then runSingleKeywordMenu pktSubwaySearchReq 256 console
  else if choice = utf8 "4" then runRouteSearchMenu 256 console
  else if choice = utf8 "5" then runFacilityMenu 256 console
  else if choice = utf8 "6" then (favoriteList, console)
  else if choice = utf8 "7" then runFavoriteAddMenu console
  else if choice = utf8 "8" then runFavoriteDeleteMenu 256 console
  else if choice = utf8 "9" then (recentList, console)
  else ([], console)

/-- The loop of `menu_loop`, at most `fuel` rounds of it: the requests sent. -/
def menuLoopAux : (fuel : Nat) → (console : List Byte) → List Str
  | 0, _ => []
  | fuel + 1, console =>
    match readLinePrompt 16 console with
    | none => []
    | some (choice, console) =>
      if choice = utf8 "0" then []
      else
        let (requests, console) := menuChoice choice console
        requests ++ menuLoopAux fuel console

/-- Every round reads at least one byte, so the length of the input is fuel enough. -/
def menuLoop (console : List Byte) : List Str := menuLoopAux console.length console

/-- The requests of a run of the client: the greeting of `main`, then the menu's. -/
def clientRequests (console : List Byte) : List Str :=
  utf8 "HELLO|console_client\n" :: menuLoop console

end Transit
