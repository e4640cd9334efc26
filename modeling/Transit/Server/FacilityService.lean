import Transit.Common.LinkedList
import Transit.Common.Protocol

/-!
# Facilities near a node (`server/facility_service.c`)
-/

namespace Transit

open Framework (cutAt)

variable {D : Type} [CDouble D]

/-- The last pass of `resolve_node_id`, over names that contain the keyword:
`candidate` is the index kept, a station ends the search. -/
def resolveSubstring (keyword : Str) (stationLike : Bool) :
    List (GraphNode D) → Nat → Option Nat → Option Nat
  | [], _, candidate => candidate
  | node :: rest, i, candidate =>
    if keywordMatch node.nodeName keyword then
      if stationLike && node.nodeType.val == utf8 "subway_station" then some i
      else resolveSubstring keyword stationLike rest (i + 1) (candidate.or (some i))
    else resolveSubstring keyword stationLike rest (i + 1) candidate

/-- The pass of `resolve_node_id` over names equal to the keyword: `Sum.inl`
where it returns a station at once. -/
def resolveExact (keyword : Str) (stationLike : Bool) :
    List (GraphNode D) → Nat → Option Nat → Nat ⊕ Option Nat
  | [], _, candidate => .inr candidate
  | node :: rest, i, candidate =>
    if node.nodeName.val == keyword then
      if stationLike && node.nodeType.val == utf8 "subway_station" then .inl i
      else resolveExact keyword stationLike rest (i + 1) (candidate.or (some i))
    else resolveExact keyword stationLike rest (i + 1) candidate

/-- The index of the node whose id is returned. -/
def resolveNodeIndex (data : AppData D) (keyword : Str) : Option Nat :=
  if strIsBlank keyword then none
  else
    match data.graph.nodes.findIdx? (·.nodeId.val == keyword) with
    | some i => some i
    | none =>
      let stationLike := keywordMatch keyword (utf8 "역")
      match resolveExact keyword stationLike data.graph.nodes 0 none with
      | .inl i => some i
      | .inr (some i) => some i
      | .inr none => resolveSubstring keyword stationLike data.graph.nodes 0 none

def resolveNodeId (data : AppData D) (keyword : Str) : Option Str :=
  (resolveNodeIndex data keyword).bind fun i => (data.graph.nodes[i]?).map (·.nodeId.val)

/-- Whether the loop of `handle_facility` takes a facility. -/
def facilityMatches (nodeId category : Str) (cur : FacilityNode D) : Bool :=
  cur.nearestNodeId.val == nodeId &&
    (strIsBlank category || category == utf8 "all" || keywordMatch cur.category category)

def facilityItem (cur : FacilityNode D) : Str :=
  cur.name.val ++ [itemSep] ++ cur.category.val ++ [itemSep] ++ cur.nearestNodeId.val ++ [itemSep] ++
    cur.address.val

/-- The loop over the facilities: the response and the number of items in it. -/
def appendFacilities (size : Nat) (nodeId category : Str) :
    List (FacilityNode D) → Str → Nat → Str × Nat
  | [], response, count => (response, count)
  | cur :: rest, response, count =>
    if facilityMatches nodeId category cur then
      if response.length + cur.name.val.length + cur.category.val.length +
          cur.nearestNodeId.val.length + cur.address.val.length + 16 ≥ size ∨ count ≥ 10 then
        (response, count)
      else
        let response := if count > 0 then (strAppend response size [listSep]).1 else response
        appendFacilities size nodeId category rest (strAppendf response size (facilityItem cur)).1
          (count + 1)
    else appendFacilities size nodeId category rest response count

def handleFacility (data : AppData D) (payload : Str) (size : Nat) : Reply :=
  if strIsBlank payload then invalidRequestReply size
  else
    match cutAt itemSep (safeStrcpy 256 payload) with
    | none => invalidRequestReply size
    | some (nodeKeyword, category) =>
      match resolveNodeId data (strTrim nodeKeyword) with
      | none => notFoundReply size pktFacilityRes
      | some nodeId =>
        let (response, count) := appendFacilities size nodeId (strTrim category) data.facilities
          (snprintf size (header pktFacilityRes .ok)) 0
        if count = 0 then notFoundReply size pktFacilityRes
        else ⟨.ok, (strAppend response size [packetTerm]).1⟩

end Transit
