import Transit.Server.Router

/-!
# Serving one connection (`server/client_handler.c`)

The loop of `handle_client` as a machine that takes one byte at a time. What
it does besides filling its buffer is an `Event`: it has a request routed and
sends the response, or it sends the error packet for a request that is too
long. `send` transmits all of a response.
-/

namespace Transit

variable {D : Type} [CDouble D]

/-- What the server keeps between requests: the user's files and the
environments of the requests to come. -/
structure Session where
  files : UserFiles
  envs : Nat → Env

inductive Event where
  | routed (request response : List Byte)
  | tooLong (response : List Byte)
  deriving DecidableEq

/-- The bytes an event puts on the connection; an empty response is not sent. -/
def Event.sent : Event → List Byte
  | routed _ response => response
  | tooLong response => response

/-- Routing one request and going on to the next environment. -/
def Session.route (data : AppData D) (s : Session) (request : List Byte) : List Byte × Session :=
  let (reply, files) := routeRequest data (s.envs 0) s.files request maxPacketSize
  (reply.response, { files := files, envs := fun k => s.envs (k + 1) })

/-- The buffer of `handle_client` (`pos` bytes of it are filled) and the session. -/
structure Handler where
  request : List Byte
  session : Session

/-- One byte received. -/
def Handler.receive (data : AppData D) (h : Handler) (ch : Byte) : Handler × Option Event :=
  if h.request.length + 1 ≥ maxPacketSize then
    -- `ch` itself is dropped, and the rest of the line is not skipped
    ({ h with request := [] }, some (.tooLong (invalidRequestReply maxPacketSize).response))
  else
    let request := h.request ++ [ch]
    if ch = packetTerm then
      let (response, session) := h.session.route data request
      ({ request := [], session := session }, some (.routed request response))
    else ({ h with request := request }, none)

/-- The loop until the stream ends: the events in order, and the last state. -/
def handleClient (data : AppData D) : Handler → List Byte → List Event × Handler
  | h, [] => ([], h)
  | h, ch :: rest =>
    let (h, event) := h.receive data ch
    let (events, h) := handleClient data h rest
    (event.toList ++ events, h)

end Transit
