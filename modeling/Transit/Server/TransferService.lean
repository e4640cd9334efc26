import Transit.Common.LinkedList
import Transit.Common.Protocol

/-!
# Path requests (`server/transfer_service.c`)
-/

namespace Transit

open Framework (cutAt)

variable {D : Type} [CDouble D]

def nodeHasCoordinates (node : GraphNode D) : Bool :=
  !CDouble.eq node.lat (CDouble.lit 0 0) && !CDouble.eq node.lng (CDouble.lit 0 0)

/-- The candidates of one pass over the nodes: the first with coordinates, and
the first among the others that was not taken for it. -/
structure Candidates where
  candidate : Option Nat
  coordinateCandidate : Option Nat

/-- One pass of `resolve_node_by_keyword` over the nodes from index `i` on:
`Sum.inl` where it returns at once, for a station when the keyword names one. -/
def resolvePass (isMatch : GraphNode D → Bool) (stationLike : Bool) :
    List (GraphNode D) → Nat → Candidates → Nat ⊕ Candidates
  | [], _, c => .inr c
  | node :: rest, i, c =>
    if isMatch node then
      if stationLike && node.nodeType.val == utf8 "subway_station" then .inl i
      else if c.coordinateCandidate.isNone && nodeHasCoordinates node then
        resolvePass isMatch stationLike rest (i + 1) { c with coordinateCandidate := some i }
      else if c.candidate.isNone then
        resolvePass isMatch stationLike rest (i + 1) { c with candidate := some i }
      else resolvePass isMatch stationLike rest (i + 1) c
    else resolvePass isMatch stationLike rest (i + 1) c

/-- The index returned, `none` for `-1`. -/
def resolveNodeByKeyword (data : AppData D) (keyword : Str) : Option Nat :=
  if strIsBlank keyword then none
  else
    match data.graph.nodes.findIdx? (·.nodeId.val == keyword) with
    | some i => some i
    | none =>
      let stationLike := keywordMatch keyword (utf8 "역")
      match resolvePass (·.nodeName.val == keyword) stationLike data.graph.nodes 0 ⟨none, none⟩ with
      | .inl i => some i
      | .inr ⟨_, some i⟩ => some i
      | .inr ⟨some i, none⟩ => some i
      | .inr ⟨none, none⟩ =>
        match resolvePass (keywordMatch ·.nodeName.val keyword) stationLike data.graph.nodes 0
            ⟨none, none⟩ with
        | .inl i => some i
        | .inr ⟨_, some i⟩ => some i
        | .inr ⟨candidate, none⟩ => candidate

def isTransferSegment (routeNo : Str) : Bool := routeNo == utf8 "TRANSFER"

/-- The variables of the loop of `count_transfers`. -/
structure TransferCount where
  count : Int
  sawTransferBridge : Bool
  lastRide : Str

/-- One segment of the path. -/
def countSegment (st : TransferCount) (route : CStr maxRouteLen) : TransferCount :=
  if isTransferSegment route then { st with count := st.count + 1, sawTransferBridge := true }
  else
    { count :=
        if st.lastRide ≠ [] ∧ st.lastRide ≠ route.val ∧ !st.sawTransferBridge then st.count + 1
        else st.count
      sawTransferBridge := false
      lastRide := route }

def countTransfers (path : GraphPath) : Int :=
  if path.count ≤ 1 then 0 else (path.segmentRoutes.foldl countSegment ⟨0, false, []⟩).count

def findSubwayDistanceKm (data : AppData D) (fromId toId : Str) : D :=
  match data.subwayDistances.find? fun cur =>
      (cur.fromStationId.val == fromId && cur.toStationId.val == toId) ||
      (cur.fromStationId.val == toId && cur.toStationId.val == fromId) with
  | some cur => cur.distanceKm
  | none => CDouble.lit 0 0

/-- `segment_routes[i]`, or `"MOVE"` where it is empty. -/
def moveRoute (route : Str) : Str := if route ≠ [] then route else utf8 "MOVE"

/-- `distance_text` of a segment: only between two subway stations. -/
def distanceText (data : AppData D) (fromNode toNode : GraphNode D) (routeNo : Str) : Str :=
  if !isTransferSegment routeNo && fromNode.nodeType.val == utf8 "subway_station" &&
      toNode.nodeType.val == utf8 "subway_station" then
    let distanceKm := findSubwayDistanceKm data fromNode.nodeId toNode.nodeId
    if CDouble.lt (CDouble.lit 0 0) distanceKm then snprintf 32 (CDouble.fmt1 distanceKm) else []
  else []

/-- The nine fields of a segment, as `"%s~%s~%s~%s~%s~%s~%s~%d~%s"` writes them. -/
def stepFields (data : AppData D) (fromNode toNode : GraphNode D) (route : Str) (minutes : Int) :
    List Str :=
  [fromNode.nodeId, fromNode.nodeName, fromNode.nodeType, moveRoute route, toNode.nodeId,
    toNode.nodeName, toNode.nodeType, fmtInt minutes,
    distanceText data fromNode toNode (moveRoute route)]

abbrev stepSep : Byte := 126
abbrev nameSep : Byte := 44

/-- The node at an index of the path. -/
def nodeAt (data : AppData D) (i : Nat) : Option (GraphNode D) := data.graph.nodes[i]?

/-- The text of each segment of a path. -/
def stepTexts (data : AppData D) (path : GraphPath) : List Str :=
  let nodes := path.indices.filterMap (nodeAt data)
  List.zipWith (fun (p : GraphNode D × GraphNode D) (s : CStr maxRouteLen × Int) =>
      [stepSep].intercalate (stepFields data p.1 p.2 s.1 s.2))
    (nodes.zip nodes.tail) (path.segmentRoutes.zip path.segmentMinutes)

/-- The loop that joins the names of the nodes, `i` being the index of the first. -/
def appendNames (size : Nat) : List Str → Nat → Str → Str
  | [], _, response => response
  | name :: rest, i, response =>
    let response := if i > 0 then (strAppend response size [nameSep]).1 else response
    appendNames size rest (i + 1) (strAppend response size name).1

/-- The loop over the segments; it breaks off where one is cut. -/
def appendSteps (size : Nat) : List Str → Nat → Str → Str
  | [], _, response => response
  | step :: rest, i, response =>
    let response := if i > 0 then (strAppend response size [listSep]).1 else response
    match strAppendf response size step with
    | (response, true) => appendSteps size rest (i + 1) response
    | (response, false) => response

/-- Writing the answer for a path that was found. -/
def transferResponse (data : AppData D) (path : GraphPath) (size : Nat) : Str :=
  let response := snprintf size (header pktTransferRes .ok)
  let names := (path.indices.filterMap (nodeAt data)).map (·.nodeName.val)
  let response := appendNames size names 0 response
  let response := (strAppendf response size
    ([itemSep] ++ fmtInt (countTransfers path) ++ [itemSep] ++ fmtInt path.totalMinutes ++ [itemSep])).1
  let response := appendSteps size (stepTexts data path) 0 response
  (strAppend response size [packetTerm]).1

/-- The path a request asks for: the two places it names, and the way between
them (`none` where either is unknown or there is none). -/
def transferPath (mem : Bool) (data : AppData D) (fromText toText : Str) : Option GraphPath :=
  match resolveNodeByKeyword data (strTrim fromText), resolveNodeByKeyword data (strTrim toText) with
  | some fromI, some toI => graphFindPath mem data.graph fromI toI
  | _, _ => none

def handleTransfer (mem : Bool) (data : AppData D) (payload : Str) (size : Nat) : Reply :=
  if strIsBlank payload then invalidRequestReply size
  else
    match cutAt itemSep (safeStrcpy 256 payload) with
    | none => invalidRequestReply size
    | some (fromText, toText) =>
      match transferPath mem data fromText toText with
      | none => notFoundReply size pktTransferRes
      | some path => ⟨.ok, transferResponse data path size⟩

end Transit
