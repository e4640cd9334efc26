import Transit.Common.Libc

/-!
# Packet names, separators and result codes (`common/protocol.h`)
-/

namespace Transit

def serverVersion : Str := utf8 "1.0.0"

abbrev maxPacketSize : Nat := 32768
abbrev maxFieldLen : Nat := 512

abbrev fieldSep : Byte := 124
abbrev itemSep : Byte := 58
abbrev listSep : Byte := 59
abbrev packetTerm : Byte := 10

def pktHello : Str := utf8 "HELLO"
def pktHelloRes : Str := utf8 "HELLO_RES"
def pktPing : Str := utf8 "PING"
def pktPong : Str := utf8 "PONG"

def pktStopSearchReq : Str := utf8 "STOP_SEARCH_REQ"
def pktStopSearchRes : Str := utf8 "STOP_SEARCH_RES"
def pktBusSearchReq : Str := utf8 "BUS_SEARCH_REQ"
def pktBusSearchRes : Str := utf8 "BUS_SEARCH_RES"
def pktSubwaySearchReq : Str := utf8 "SUBWAY_SEARCH_REQ"
def pktSubwaySearchRes : Str := utf8 "SUBWAY_SEARCH_RES"

def pktTransferReq : Str := utf8 "TRANSFER_REQ"
def pktTransferRes : Str := utf8 "TRANSFER_RES"
def pktFacilityReq : Str := utf8 "FACILITY_REQ"
def pktFacilityRes : Str := utf8 "FACILITY_RES"

def pktArrivalReq : Str := utf8 "ARRIVAL_REQ"
def pktArrivalRes : Str := utf8 "ARRIVAL_RES"
def pktCrowdingReq : Str := utf8 "CROWDING_REQ"
def pktCrowdingRes : Str := utf8 "CROWDING_RES"

def pktFavoriteAddReq : Str := utf8 "FAVORITE_ADD_REQ"
def pktFavoriteAddRes : Str := utf8 "FAVORITE_ADD_RES"
def pktFavoriteListReq : Str := utf8 "FAVORITE_LIST_REQ"
def pktFavoriteListRes : Str := utf8 "FAVORITE_LIST_RES"
def pktFavoriteDeleteReq : Str := utf8 "FAVORITE_DELETE_REQ"
def pktFavoriteDeleteRes : Str := utf8 "FAVORITE_DELETE_RES"
def pktRecentListReq : Str := utf8 "RECENT_LIST_REQ"
def pktRecentListRes : Str := utf8 "RECENT_LIST_RES"

def pktError : Str := utf8 "ERROR"

inductive ErrorCode where
  | ok
  | notFound
  | invalidRequest
  | dataLoadError
  | serverError
  deriving DecidableEq, Repr

def ErrorCode.toInt : ErrorCode → Int
  | ok => 0
  | notFound => 1
  | invalidRequest => 2
  | dataLoadError => 3
  | serverError => 4

/-- What a handler returns: its result code and what it leaves in the
response buffer. -/
structure Reply where
  code : ErrorCode
  response : Str
  deriving DecidableEq

/-- `"%s|%d|"`, how every listing starts. -/
def header (packet : Str) (code : ErrorCode) : Str :=
  packet ++ [fieldSep] ++ fmtInt code.toInt ++ [fieldSep]

/-- `"%s|%d|..\n"`: a whole response in one `snprintf`. -/
def message (size : Nat) (packet : Str) (code : ErrorCode) (text : Str) : Reply :=
  ⟨code, snprintf size (header packet code ++ text ++ [packetTerm])⟩

/-- `"%s|%d|\n"` with `ERR_NOT_FOUND`. -/
def notFoundReply (size : Nat) (packet : Str) : Reply := message size packet .notFound []

/-- `"%s|%d:INVALID_REQUEST\n"` with `PKT_ERROR`. -/
def invalidRequestReply (size : Nat) : Reply :=
  ⟨.invalidRequest, snprintf size (pktError ++ [fieldSep] ++ fmtInt ErrorCode.invalidRequest.toInt ++
    [itemSep] ++ utf8 "INVALID_REQUEST" ++ [packetTerm])⟩

end Transit
