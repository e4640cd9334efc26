import Transit.Server.ClientHandler
import Transit.Server.Log

/-!
# The accept loop (`server/server.c`), and what is logged while it runs

The server has to do with one connection at a time; a connection is the bytes
that `recv` gives until it gives no more. What `handle_client` and the handlers
below it log is listed beside `handleClient`, call by call.
-/

namespace Transit

variable {D : Type} [CDouble D]

/-- `log_invalid_favorite_target`. -/
def logInvalidFavoriteTarget (type id name : Str) : LogCall :=
  logError (utf8 "-") (utf8 "FAVORITE_ADD") ErrorCode.notFound.toInt
    (snprintf 512 (utf8 "favorite target not found in loaded CSV data: type=" ++ type ++ utf8 " id=" ++ id ++
      utf8 " name=" ++ name))

/-- What is logged while a request is routed: only `handle_favorite_add` logs. -/
def routeLog (data : AppData D) (request : List Byte) : List LogCall :=
  let (type, body) := splitRequest request
  if type = pktFavoriteAddReq then
    match favoriteAddFields body with
    | none => []
    | some (type, id, name) =>
      if favoriteTargetExists data type id name then [] else [logInvalidFavoriteTarget type id name]
  else []

def logRequest (clientIp : Str) (request : List Byte) (result : ErrorCode) : LogCall :=
  logInfo clientIp (cstr request) result.toInt (utf8 "request processed")

/-- What is logged for one byte received. -/
def Handler.log (data : AppData D) (clientIp : Str) (h : Handler) (ch : Byte) : List LogCall :=
  match (h.receive data ch).2 with
  | some (.routed request _) =>
    routeLog data request ++ [logRequest clientIp request
      (routeRequest data (h.session.envs 0) h.session.files request maxPacketSize).1.code]
  | _ => []

/-- What is logged in the loop of `handle_client`. -/
def handleClientLog (data : AppData D) (clientIp : Str) : Handler → List Byte → List LogCall
  | _, [] => []
  | h, ch :: rest => h.log data clientIp ch ++ handleClientLog data clientIp (h.receive data ch).1 rest

/-- What `accept` gives. -/
inductive Connection where
  | failed (lastError : Str)
  | client (ip : Str) (stream : List Byte)

/-- What the server leaves behind: the events of each client, the calls of the
log, and the session. -/
structure ServerRun where
  events : List (List Event)
  log : List LogCall
  session : Session

/-- `handle_client` for one client, from an empty buffer. -/
def serveClient (data : AppData D) (session : Session) (ip : Str) (stream : List Byte) : ServerRun :=
  let clientIp := snprintf 64 ip
  let (events, h) := handleClient data ⟨[], session⟩ stream
  { events := [events]
    log := [logInfo clientIp (utf8 "CONNECT") ErrorCode.ok.toInt (utf8 "client connected")] ++
      handleClientLog data clientIp ⟨[], session⟩ stream ++
      [logInfo clientIp (utf8 "DISCONNECT") ErrorCode.ok.toInt (utf8 "client disconnected")]
    session := h.session }

/-- The loop of `server_run` over the connections it accepts. -/
def acceptLoop (data : AppData D) : Session → List Connection → ServerRun
  | session, [] => ⟨[], [], session⟩
  | session, .failed lastError :: rest =>
    let run := acceptLoop data session rest
    { run with log := logError (utf8 "-") (utf8 "ACCEPT") 4 lastError :: run.log }
  | session, .client ip stream :: rest =>
    let first := serveClient data session ip stream
    let run := acceptLoop data first.session rest
    { events := first.events ++ run.events, log := first.log ++ run.log, session := run.session }

/-- `server_run`, its socket being opened. -/
def serverRun (data : AppData D) (session : Session) (connections : List Connection) : ServerRun :=
  let run := acceptLoop data session connections
  { run with log := logInfo (utf8 "-") (utf8 "SERVER_START") 0 (utf8 "server listening") :: run.log }

end Transit
