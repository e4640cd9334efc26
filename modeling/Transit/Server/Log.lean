import Transit.Common.Protocol
import Transit.Common.StringUtils

/-!
# The server's log (`server/log.c`)

A call writes one line, on the console and, if it could be opened, to the log
file; `now` is what `current_timestamp` reads for it.
-/

namespace Transit

inductive LogLevel where
  | info
  | error
  deriving DecidableEq

def LogLevel.text : LogLevel → Str
  | info => utf8 "INFO"
  | error => utf8 "ERROR"

/-- The arguments of a call of `log_write`. -/
structure LogCall where
  level : LogLevel
  clientIp : Str
  requestType : Str
  resultCode : Int
  message : Str
  deriving DecidableEq

def logInfo (clientIp requestType : Str) (resultCode : Int) (message : Str) : LogCall :=
  ⟨.info, clientIp, requestType, resultCode, message⟩

def logError (clientIp requestType : Str) (resultCode : Int) (message : Str) : LogCall :=
  ⟨.error, clientIp, requestType, resultCode, message⟩

def sanitizeMessage (dstSize : Nat) (src : Str) : Str :=
  (safeStrcpy dstSize src).map fun b => if b == 10 || b == 13 then 32 else b

def logSep : Str := utf8 " | "

/-- `"%s | %s | %s | %s | %d | %s\n"`. -/
def logWrite (now : Str) (call : LogCall) : Str :=
  now ++ logSep ++ call.level.text ++ logSep ++ call.clientIp ++ logSep ++
    sanitizeMessage 256 call.requestType ++ logSep ++ fmtInt call.resultCode ++ logSep ++
    sanitizeMessage 512 call.message ++ [packetTerm]

/-- What calls append to the log; `clock i` is the time read by the `i`-th of them. -/
def logText (clock : Nat → Str) (calls : List LogCall) : Str :=
  (calls.mapIdx fun i call => logWrite (clock i) call).flatten

end Transit
