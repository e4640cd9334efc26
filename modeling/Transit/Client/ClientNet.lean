import Transit.Common.Protocol

/-!
# Receiving a response line (`client/client_net.c`)
-/

namespace Transit

/-- One byte received by `client_recv_line` into a buffer of `bufSize`: what
the buffer holds then, and whether the call returns. -/
def clientRecvByte (bufSize : Nat) (buf : List Byte) (ch : Byte) : List Byte × Bool :=
  let buf := buf ++ [ch]
  (buf, ch = packetTerm || !(buf.length + 1 < bufSize))

end Transit
