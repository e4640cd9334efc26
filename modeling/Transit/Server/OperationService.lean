import Transit.Common.LinkedList
import Transit.Common.Protocol

/-!
# Arrival times and crowding (`server/operation_service.c`)
-/

namespace Transit

variable {D : Type}

/-- The three fields of a request, each in a `char[32]`; `none` where one is missing or blank. -/
def operationFields (payload : Str) : Option (Str × Str × Str) :=
  match splitThreeFields payload itemSep 32 32 32 with
  | none => none
  | some (nodeId, routeNo, timeSlot) =>
    if strIsBlank nodeId || strIsBlank routeNo || strIsBlank timeSlot then none
    else some (nodeId, routeNo, timeSlot)

def handleArrival (data : AppData D) (payload : Str) (size : Nat) : Reply :=
  match operationFields payload with
  | none => invalidRequestReply size
  | some (nodeId, routeNo, timeSlot) =>
    match findArrival data nodeId routeNo timeSlot with
    | none => notFoundReply size pktArrivalRes
    | some arrival =>
      message size pktArrivalRes .ok
        (arrival.routeNo.val ++ [itemSep] ++ findNodeNameById data arrival.nodeId ++ [itemSep] ++
          fmtInt arrival.arrivalMinutes ++ [itemSep] ++ arrival.status.val)

def handleCrowding (data : AppData D) (payload : Str) (size : Nat) : Reply :=
  match operationFields payload with
  | none => invalidRequestReply size
  | some (nodeId, routeNo, timeSlot) =>
    match findCrowding data nodeId routeNo timeSlot with
    | none => notFoundReply size pktCrowdingRes
    | some crowding =>
      message size pktCrowdingRes .ok
        (crowding.routeNo.val ++ [itemSep] ++ findNodeNameById data crowding.nodeId ++ [itemSep] ++
          crowding.timeSlot.val ++ [itemSep] ++ crowding.crowdingLevel.val)

end Transit
