import Transit.Common.LinkedList
import Transit.Common.Protocol

/-!
# Favourites and recent searches (`server/user_state_service.c`)

The handlers work on four files. `Io` says, for one request, which of the file
operations it tries succeed; opening a file for reading, removing or renaming
it also needs the file to be there. What is written to an open file reaches it.
`ensure_dir` and logging are left out.
-/

namespace Transit

open Framework (cutAt)

variable {D : Type}

/-- The files of the user's state: `none` where a file does not exist. -/
structure UserFiles where
  favorites : Option (List Byte)
  favoritesTmp : Option (List Byte)
  recent : Option (List Byte)
  recentTmp : Option (List Byte)
  deriving DecidableEq

/-- The outcomes of the file operations of one request: `fopen` for reading,
`fopen` for writing or appending, `remove` of the original, `rename` of the
temporary file, `remove` of the temporary file. -/
structure Io where
  openRead : Bool
  openWrite : Bool
  remove : Bool
  rename : Bool
  removeTmp : Bool
  deriving DecidableEq

/-- Every operation succeeds that can. -/
def Io.allOk : Io := ⟨true, true, true, true, true⟩

abbrev serverRecentMaxCount : Nat := 20

/-- What `fopen(path, "r")` gives to read. -/
def Io.read (io : Io) (file : Option (List Byte)) : Option (List Byte) :=
  if io.openRead then file else none

/-! ## Favourites -/

def favoriteTypeLabel (type : Str) : Str :=
  if type == utf8 "stop" then utf8 "정류장"
  else if type == utf8 "bus" then utf8 "버스"
  else if type == utf8 "station" then utf8 "지하철역"
  else type

def containsPacketFieldDelim (value : Str) : Bool :=
  strContainsProtocolDelim value || value.contains itemSep

def normalizeFavoriteType (input : Str) (outSize : Nat) : Option Str :=
  if strIsBlank input then none
  else
    let buf := strTrim (safeStrcpy 64 input)
    if [utf8 "1", utf8 "정류장", utf8 "버스정류장", utf8 "stop"].contains buf then
      some (safeStrcpy outSize (utf8 "stop"))
    else if [utf8 "2", utf8 "버스", utf8 "버스번호", utf8 "노선", utf8 "bus"].contains buf then
      some (safeStrcpy outSize (utf8 "bus"))
    else if [utf8 "3", utf8 "지하철역", utf8 "역", utf8 "station"].contains buf then
      some (safeStrcpy outSize (utf8 "station"))
    else none

/-- The three parts of a stored line around its first two `|`. -/
def splitRecord (line : Str) : Option (Str × Str × Str) :=
  match cutAt fieldSep line with
  | none => none
  | some (type, rest) =>
    match cutAt fieldSep rest with
    | none => none
    | some (id, name) => some (type, id, name)

/-- Whether a line of the file, as `favorite_exists` reads it, has this type and id. -/
def sameFavorite (type id : Str) (line : Str) : Bool :=
  match splitRecord (stripNewline line) with
  | some (lineType, lineId, _) => lineType == type && lineId == id
  | none => false

def favoriteExists (io : Io) (fs : UserFiles) (type id : Str) : Bool :=
  match io.read fs.favorites with
  | none => false
  | some file => (fgetsAll 1024 file).any (sameFavorite type id)

def textMatchesInput (value id name : Str) : Bool :=
  !strIsBlank value && ((!strIsBlank id && value == id) || (!strIsBlank name && value == name))

def utf8Bun : Str := utf8 "번"

def routeNameMatchesValue (routeName value : Str) : Bool :=
  let tail := routeName.drop value.length
  if strIsBlank routeName || strIsBlank value then false
  else if routeName == value then true
  else if routeName.length > utf8Bun.length && routeName == value ++ utf8Bun then true
  else if value.length > utf8Bun.length && value == routeName ++ utf8Bun then true
  else if routeName.length > value.length && value.isPrefixOf routeName then
    tail.head? == some 32 || tail.head? == some 45 || tail.head? == some 40 ||
      utf8Bun.isPrefixOf tail
  else false

def routeMatchesInput (route : RouteNode) (id name : Str) : Bool :=
  textMatchesInput route.routeNo id name || textMatchesInput route.routeName id name ||
    routeNameMatchesValue route.routeName id || routeNameMatchesValue route.routeName name ||
    routeNameMatchesValue route.routeNo id || routeNameMatchesValue route.routeNo name

def favoriteTargetExists (data : AppData D) (type id name : Str) : Bool :=
  if strIsBlank type then false
  else if type == utf8 "stop" then
    (findStopById data id).isSome || (findStopById data name).isSome ||
      data.stops.any fun cur => textMatchesInput cur.stopName id name
  else if type == utf8 "bus" then
    (findRouteByNo data id).isSome || (findRouteByNo data name).isSome ||
      data.routes.any fun cur => routeMatchesInput cur id name
  else if type == utf8 "station" then
    (findStationById data id).isSome || (findStationById data name).isSome ||
      data.stations.any fun cur => textMatchesInput cur.stationName id name
  else false

/-- The type, id and name of an addition, `none` where the payload is refused. -/
def favoriteAddFields (payload : Str) : Option (Str × Str × Str) :=
  match splitThreeFields payload itemSep 64 128 256 with
  | none => none
  | some (typeInput, id, name) =>
    match normalizeFavoriteType typeInput 64 with
    | none => none
    | some type =>
      if strIsBlank id || strIsBlank name || containsPacketFieldDelim id ||
          containsPacketFieldDelim name then none
      else some (type, id, name)

/-- `"%s|%s|%s\n"`, a line of the favourites file. -/
def favoriteLine (type id name : Str) : Str :=
  type ++ [fieldSep] ++ id ++ [fieldSep] ++ name ++ [packetTerm]

def handleFavoriteAdd (io : Io) (data : AppData D) (fs : UserFiles) (payload : Str) (size : Nat) :
    Reply × UserFiles :=
  match favoriteAddFields payload with
  | none => (invalidRequestReply size, fs)
  | some (type, id, name) =>
    if !favoriteTargetExists data type id name then
      (message size pktFavoriteAddRes .notFound
        (utf8 "CSV 데이터에 없는 항목이라 즐겨찾기에 저장하지 않았습니다."), fs)
    else if favoriteExists io fs type id then
      (message size pktFavoriteAddRes .ok (utf8 "이미 저장된 즐겨찾기입니다."), fs)
    else if !io.openWrite then
      (message size pktFavoriteAddRes .serverError
        (utf8 "서버 즐겨찾기 파일을 열 수 없습니다."), fs)
    else
      (message size pktFavoriteAddRes .ok
        (utf8 "즐겨찾기를 서버에 저장했습니다: " ++ favoriteTypeLabel type ++ utf8 " | " ++ id ++
          utf8 " | " ++ name),
        { fs with favorites := some (fs.favorites.getD [] ++ favoriteLine type id name) })

/-- The row of a line that `handle_favorite_list` sends: three parts, none blank. -/
def favoriteRow (line : Str) : Option (Str × Str × Str) :=
  match splitRecord (stripNewline line) with
  | none => none
  | some (type, id, name) =>
    if strIsBlank type || strIsBlank id || strIsBlank name then none else some (type, id, name)

/-- `"%s:%s:%s"`, an item of a list response. -/
def listItem (row : Str × Str × Str) : Str :=
  row.1 ++ [itemSep] ++ row.2.1 ++ [itemSep] ++ row.2.2

/-- The loop that appends items to a list response until one would not leave
room (`count` of them are written). -/
def appendListItems (size : Nat) : List (Str × Str × Str) → Str → Nat → Str
  | [], response, _ => response
  | row :: rest, response, count =>
    let needed := row.1.length + row.2.1.length + row.2.2.length + 4
    if response.length + needed + 2 ≥ size then response
    else
      let response := if count > 0 then (strAppend response size [listSep]).1 else response
      appendListItems size rest (strAppendf response size (listItem row)).1 (count + 1)

def handleFavoriteList (io : Io) (fs : UserFiles) (size : Nat) : Reply :=
  let response := snprintf size (header pktFavoriteListRes .ok)
  match io.read fs.favorites with
  | none => ⟨.ok, (strAppend response size [packetTerm]).1⟩
  | some file =>
    let response := appendListItems size ((fgetsAll 1024 file).filterMap favoriteRow) response 0
    ⟨.ok, (strAppend response size [packetTerm]).1⟩

/-- The loop of `handle_favorite_delete` over the lines of the file: what it
writes to the temporary file and the line it leaves out. `current` is the
number of the next line that is not blank. -/
def deleteLoop (targetIndex : Int) : List Str → Int → List Byte × Option Str
  | [], _ => ([], none)
  | original :: rest, current =>
    let line := stripNewline original
    if strIsBlank line then deleteLoop targetIndex rest current
    else
      let (written, deleted) := deleteLoop targetIndex rest (current + 1)
      if current = targetIndex then (written, deleted.or (some line))
      else (original ++ (if original.getLast? = some packetTerm then [] else [packetTerm]) ++ written,
        deleted)

/-- The message about a deleted line. -/
def deletedText (deletedLine : Str) : Str :=
  if deletedLine = [] then utf8 "즐겨찾기를 서버에서 삭제했습니다."
  else
    let (type, id, name) :=
      match cutAt fieldSep deletedLine with
      | none => (deletedLine, [], [])
      | some (type, rest) =>
        match cutAt fieldSep rest with
        | none => (type, rest, [])
        | some (id, name) => (type, id, name)
    utf8 "즐겨찾기를 서버에서 삭제했습니다: " ++ favoriteTypeLabel type ++ utf8 " | " ++ id ++
      utf8 " | " ++ name

def handleFavoriteDelete (io : Io) (fs : UserFiles) (payload : Str) (size : Nat) :
    Reply × UserFiles :=
  match strToInt payload with
  | none => (invalidRequestReply size, fs)
  | some targetIndex =>
    if targetIndex ≤ 0 then (invalidRequestReply size, fs)
    else
      match io.read fs.favorites with
      | none => (message size pktFavoriteDeleteRes .ok (utf8 "저장된 즐겨찾기가 없습니다."), fs)
      | some file =>
        if !io.openWrite then
          (message size pktFavoriteDeleteRes .serverError
            (utf8 "서버 즐겨찾기 파일을 수정할 수 없습니다."), fs)
        else
          let (written, deleted) := deleteLoop targetIndex (fgetsAll 1024 file) 1
          let leftTmp := if io.removeTmp then none else some written
          match deleted with
          | none =>
            (message size pktFavoriteDeleteRes .ok (utf8 "해당 번호의 즐겨찾기가 없습니다."),
              { fs with favoritesTmp := leftTmp })
          | some deletedLine =>
            if !io.remove then
              (message size pktFavoriteDeleteRes .serverError
                (utf8 "즐겨찾기 삭제 중 서버 파일 처리에 실패했습니다."),
                { fs with favoritesTmp := leftTmp })
            else if !io.rename then
              -- the original is gone by now, and the clean-up removes the only copy
              (message size pktFavoriteDeleteRes .serverError
                (utf8 "즐겨찾기 삭제 중 서버 파일 처리에 실패했습니다."),
                { fs with favorites := none, favoritesTmp := leftTmp })
            else
              (message size pktFavoriteDeleteRes .ok (deletedText deletedLine),
                { fs with favorites := some written, favoritesTmp := none })

/-! ## Recent searches -/

/-- Keeping a record in an array of `room` lines: the oldest is pushed out. -/
def pushRecord (room : Nat) (recent : List Str) (line : Str) : List Str :=
  if recent.length ≥ room then recent.tail ++ [safeStrcpy 1024 line]
  else recent ++ [safeStrcpy 1024 line]

/-- The records `server_recent_add` keeps of the file. -/
def keptRecords (file : List Byte) : List Str :=
  (((fgetsAll 1024 file).map stripNewline).filter fun line => !strIsBlank line).foldl
    (pushRecord (serverRecentMaxCount - 1)) []

/-- `"%s|%s|%s"` in `record[1024]`. -/
def recentRecord (type keyword ts : Str) : Str :=
  snprintf 1024 (type ++ [fieldSep] ++ keyword ++ [fieldSep] ++ ts)

/-- Whether `server_recent_add` records a search. -/
def recentAccepts (type keyword : Str) : Bool :=
  !(strIsBlank type || strIsBlank keyword || containsPacketFieldDelim type ||
    containsPacketFieldDelim keyword)

/-- The lines written to the temporary file. -/
def recentText (kept : List Str) (record : Str) : List Byte :=
  (kept.flatMap (· ++ [packetTerm])) ++ record ++ [packetTerm]

/-- `ts` is the time `current_timestamp` reads. -/
def serverRecentAdd (io : Io) (fs : UserFiles) (type keyword ts : Str) : UserFiles :=
  if !recentAccepts type keyword then fs
  else
    let kept :=
      match io.read fs.recent with
      | none => []
      | some file => keptRecords file
    let written := recentText kept (recentRecord type keyword ts)
    if !io.openWrite then fs
    else
      let original := if io.remove then none else fs.recent
      if io.rename then { fs with recent := some written, recentTmp := none }
      else
        { fs with recent := original, recentTmp := if io.removeTmp then none else some written }

/-- The record of a line as `handle_recent_list` reads it. -/
def recentLine (line : Str) : Str :=
  let line := stripNewline line
  if bom.isPrefixOf line then line.drop 3 else line

/-- Whether a record has three parts, none blank. -/
def recentValid (line : Str) : Bool :=
  match splitRecord line with
  | none => false
  | some (type, keyword, ts) => !(strIsBlank type || strIsBlank keyword || strIsBlank ts)

/-- The records listed, oldest first. -/
def listedRecords (file : List Byte) : List Str :=
  (((fgetsAll 1024 file).map recentLine).filter recentValid).foldl
    (pushRecord serverRecentMaxCount) []

def handleRecentList (io : Io) (fs : UserFiles) (size : Nat) : Reply :=
  let response := snprintf size (header pktRecentListRes .ok)
  match io.read fs.recent with
  | none => ⟨.ok, (strAppend response size [packetTerm]).1⟩
  | some file =>
    let response :=
      appendListItems size ((listedRecords file).reverse.filterMap splitRecord) response 0
    ⟨.ok, (strAppend response size [packetTerm]).1⟩

end Transit
