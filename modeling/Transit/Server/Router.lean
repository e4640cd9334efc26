import Transit.Server.FacilityService
import Transit.Server.OperationService
import Transit.Server.SearchService
import Transit.Server.TransferService
import Transit.Server.UserStateService

/-!
# Routing a request to its handler (`server/router.c`)

What a request finds outside the server's data is its environment, `Env`: the
outcomes of its file operations, whether its allocations succeed and the time
`current_timestamp` reads.
-/

namespace Transit

open Framework (cutAt)

variable {D : Type} [CDouble D]

structure Env where
  io : Io
  mem : Bool
  now : Str

/-- The text recorded for a request of two fields. -/
def makeRecentPairText (requestBody sepText : Str) (outSize : Nat) : Str :=
  match cutAt itemSep (safeStrcpy (maxFieldLen * 2) requestBody) with
  | none => safeStrcpy outSize requestBody
  | some (left, right) => snprintf outSize (strTrim left ++ sepText ++ strTrim right)

/-- The keyword `save_recent_search` records for a request. -/
def recentKeyword (recentType requestBody : Str) : Str :=
  if recentType == utf8 "route" then makeRecentPairText requestBody (utf8 "->") (maxFieldLen * 2)
  else if recentType == utf8 "facility" then
    makeRecentPairText requestBody (utf8 "/") (maxFieldLen * 2)
  else strTrim (safeStrcpy (maxFieldLen * 2) requestBody)

def saveRecentSearch (env : Env) (fs : UserFiles) (result : ErrorCode)
    (recentType requestBody : Str) : UserFiles :=
  if result ≠ .ok ∨ strIsBlank recentType ∨ strIsBlank requestBody then fs
  else serverRecentAdd env.io fs recentType (recentKeyword recentType requestBody) env.now

def runServiceAndSaveRecent (service : Str → Nat → Reply) (env : Env) (fs : UserFiles)
    (requestBody : Str) (size : Nat) (recentType : Str) : Reply × UserFiles :=
  let reply := service requestBody size
  (reply, saveRecentSearch env fs reply.code recentType requestBody)

/-- The type and the body of a request line. `request` is what `route_request`
is handed: a buffer whose string ends at its first NUL. -/
def splitRequest (request : List Byte) : Str × Str :=
  let packet := stripNewline (safeStrcpy maxPacketSize (cstr request))
  let hasBom := bom.isPrefixOf packet
  match cutAt fieldSep packet with
  | none => (if hasBom then packet.drop 3 else packet, [])
  | some (type, body) => (if hasBom then type.drop 3 else type, body)

def routeRequest (data : AppData D) (env : Env) (fs : UserFiles) (request : List Byte) (size : Nat) :
    Reply × UserFiles :=
  let (type, body) := splitRequest request
  if type = pktHello then
    (⟨.ok, snprintf size (pktHelloRes ++ [fieldSep] ++ utf8 "OK" ++ [itemSep] ++ serverVersion ++
      [packetTerm])⟩, fs)
  else if type = pktPing then (⟨.ok, snprintf size (pktPong ++ [fieldSep, packetTerm])⟩, fs)
  else if type = pktStopSearchReq then
    runServiceAndSaveRecent (handleStopSearch data) env fs body size (utf8 "stop")
  else if type = pktBusSearchReq then
    runServiceAndSaveRecent (handleBusSearch data) env fs body size (utf8 "bus")
  else if type = pktSubwaySearchReq then
    runServiceAndSaveRecent (handleSubwaySearch data) env fs body size (utf8 "station")
  else if type = pktTransferReq then
    runServiceAndSaveRecent (handleTransfer env.mem data) env fs body size (utf8 "route")
  else if type = pktFacilityReq then
    runServiceAndSaveRecent (handleFacility data) env fs body size (utf8 "facility")
  else if type = pktArrivalReq then (handleArrival data body size, fs)
  else if type = pktCrowdingReq then (handleCrowding data body size, fs)
  else if type = pktFavoriteAddReq then handleFavoriteAdd env.io data fs body size
  else if type = pktFavoriteListReq then (handleFavoriteList env.io fs size, fs)
  else if type = pktFavoriteDeleteReq then handleFavoriteDelete env.io fs body size
  else if type = pktRecentListReq then (handleRecentList env.io fs size, fs)
  else (invalidRequestReply size, fs)

end Transit
