import Transit.Proof.PairRequests
import Transit.Proof.RecordViews

/-!
# Asking for arrival times and crowding

Both handlers copy the three fields of a request into `char[32]`, also the route
number, for which the records have 128 bytes. A record is found by what is left
of the fields.

* `operationQueries`: the records that a request with their own key reports, and
  the requests that only report records with the key they send.
* `operationQueries_longRoute`: a record that no request reports.
-/

namespace Transit

open Framework

variable {D : Type}

/-- The three texts of a key: the node, the route and the time slot. -/
abbrev OperationKey := Str × Str × Str

/-- The first record with a key. -/
def firstWithKey {α : Type} (records : List α) (key : α → OperationKey) (fields : OperationKey) : Option α :=
  records.find? fun r => decide (key r = fields)

/-- What both handlers answer, given the records, their keys and what is reported of them. -/
def operationReply {α : Type} (records : List α) (key : α → OperationKey) (result : Str) (report : α → Str)
    (payload : Str) (size : Nat) : Reply :=
  match operationFields payload with
  | none => invalidRequestReply size
  | some fields =>
    match firstWithKey records key fields with
    | none => notFoundReply size result
    | some r => message size result .ok (report r)

/-- One of the two services, with what its records have in common. -/
structure OperationService (D α : Type) [CDouble D] where
  request : Str
  result : Str
  records : AppData D → List α
  key : α → OperationKey
  report : AppData D → α → Str
  name : PacketName request
  colonFree : itemSep ∉ header result .ok
  headerShort : (header result .ok).length ≤ 20
  handles : ∀ data env fs line size, (splitRequest line).1 = request →
    routeRequest data env fs line size =
      (operationReply (records data) key result (report data) (splitRequest line).2 size, fs)
  nodeFits : ∀ r, (key r).1.length ≤ 31
  routeFits : ∀ r, (key r).2.1.length ≤ 127
  slotFits : ∀ r, (key r).2.2.length ≤ 31
  reportRoute : ∀ data r, ∃ rest, report data r = (key r).2.1 ++ itemSep :: rest

theorem findArrival_eq (data : AppData D) (fields : OperationKey) :
    findArrival data fields.1 fields.2.1 fields.2.2 =
      firstWithKey data.arrivals (fun r => (r.nodeId.val, r.routeNo.val, r.timeSlot.val)) fields := by
  unfold findArrival firstWithKey
  congr 1
  funext r
  rw [Bool.eq_iff_iff]
  simp [Prod.ext_iff, and_assoc]

theorem findCrowding_eq (data : AppData D) (fields : OperationKey) :
    findCrowding data fields.1 fields.2.1 fields.2.2 =
      firstWithKey data.crowdings (fun r => (r.nodeId.val, r.routeNo.val, r.timeSlot.val)) fields := by
  unfold findCrowding firstWithKey
  congr 1
  funext r
  rw [Bool.eq_iff_iff]
  simp [Prod.ext_iff, and_assoc]

theorem handleArrival_eq (data : AppData D) (payload : Str) (size : Nat) :
    handleArrival data payload size =
      operationReply data.arrivals (fun r => (r.nodeId.val, r.routeNo.val, r.timeSlot.val)) pktArrivalRes
        (fun r => itemText (arrivalFields data r)) payload size := by
  unfold handleArrival operationReply arrivalFields
  simp only [itemText_four]
  cases operationFields payload with
  | none => rfl
  | some fields =>
    dsimp only
    rw [← findArrival_eq]
    cases findArrival data fields.1 fields.2.1 fields.2.2 <;> rfl

theorem handleCrowding_eq (data : AppData D) (payload : Str) (size : Nat) :
    handleCrowding data payload size =
      operationReply data.crowdings (fun r => (r.nodeId.val, r.routeNo.val, r.timeSlot.val)) pktCrowdingRes
        (fun r => itemText (crowdingFields data r)) payload size := by
  unfold handleCrowding operationReply crowdingFields
  simp only [itemText_four]
  cases operationFields payload with
  | none => rfl
  | some fields =>
    dsimp only
    rw [← findCrowding_eq]
    cases findCrowding data fields.1 fields.2.1 fields.2.2 <;> rfl

section

variable [CDouble D]

theorem routeRequest_arrival (data : AppData D) (env : Env) (fs : UserFiles) (line : List Byte) (size : Nat)
    (h : (splitRequest line).1 = pktArrivalReq) :
    routeRequest data env fs line size = (handleArrival data (splitRequest line).2 size, fs) := by
  have h1 : pktArrivalReq ≠ pktHello := by decide
  have h2 : pktArrivalReq ≠ pktPing := by decide
  have h3 : pktArrivalReq ≠ pktStopSearchReq := by decide
  have h4 : pktArrivalReq ≠ pktBusSearchReq := by decide
  have h5 : pktArrivalReq ≠ pktSubwaySearchReq := by decide
  have h6 : pktArrivalReq ≠ pktTransferReq := by decide
  have h7 : pktArrivalReq ≠ pktFacilityReq := by decide
  simp only [routeRequest, h, h1, h2, h3, h4, h5, h6, h7, ↓reduceIte]

theorem routeRequest_crowding (data : AppData D) (env : Env) (fs : UserFiles) (line : List Byte) (size : Nat)
    (h : (splitRequest line).1 = pktCrowdingReq) :
    routeRequest data env fs line size = (handleCrowding data (splitRequest line).2 size, fs) := by
  have h1 : pktCrowdingReq ≠ pktHello := by decide
  have h2 : pktCrowdingReq ≠ pktPing := by decide
  have h3 : pktCrowdingReq ≠ pktStopSearchReq := by decide
  have h4 : pktCrowdingReq ≠ pktBusSearchReq := by decide
  have h5 : pktCrowdingReq ≠ pktSubwaySearchReq := by decide
  have h6 : pktCrowdingReq ≠ pktTransferReq := by decide
  have h7 : pktCrowdingReq ≠ pktFacilityReq := by decide
  have h8 : pktCrowdingReq ≠ pktArrivalReq := by decide
  simp only [routeRequest, h, h1, h2, h3, h4, h5, h6, h7, h8, ↓reduceIte]

def arrivalService : OperationService D ArrivalNode where
  request := pktArrivalReq
  result := pktArrivalRes
  records := AppData.arrivals
  key r := (r.nodeId.val, r.routeNo.val, r.timeSlot.val)
  report data r := itemText (arrivalFields data r)
  name := ⟨by decide, by decide, by decide, _, _, rfl, rfl⟩
  colonFree := by decide
  headerShort := by decide
  handles data env fs line size h := by
    rw [routeRequest_arrival data env fs line size h, handleArrival_eq]
  nodeFits r := r.nodeId.2
  routeFits r := r.routeNo.2
  slotFits r := r.timeSlot.2
  reportRoute data r := ⟨_, by
    rw [arrivalFields, itemText_four, List.append_assoc, List.append_assoc, List.append_assoc, List.append_assoc,
      List.append_assoc, List.singleton_append]⟩

def crowdingService : OperationService D CrowdingNode where
  request := pktCrowdingReq
  result := pktCrowdingRes
  records := AppData.crowdings
  key r := (r.nodeId.val, r.routeNo.val, r.timeSlot.val)
  report data r := itemText (crowdingFields data r)
  name := ⟨by decide, by decide, by decide, _, _, rfl, rfl⟩
  colonFree := by decide
  headerShort := by decide
  handles data env fs line size h := by
    rw [routeRequest_crowding data env fs line size h, handleCrowding_eq]
  nodeFits r := r.nodeId.2
  routeFits r := r.routeNo.2
  slotFits r := r.timeSlot.2
  reportRoute data r := ⟨_, by
    rw [crowdingFields, itemText_four, List.append_assoc, List.append_assoc, List.append_assoc, List.append_assoc,
      List.append_assoc, List.singleton_append]⟩

end

/-! ## The fields of a request -/

/-- The three fields of a payload, cut at its first two separators. -/
def rawFields (payload : Str) : Option OperationKey :=
  (cutAt itemSep payload).bind fun p => (cutAt itemSep p.2).map fun q => (p.1, q.1, q.2)

/-- The fields that are sent. -/
def sentKey (raw : OperationKey) : OperationKey := (strTrim raw.1, strTrim raw.2.1, strTrim raw.2.2)

/-- What is left of them in the copy of 2048 bytes and the arrays of 32. -/
def cutKey (raw : OperationKey) : OperationKey :=
  ((strTrim raw.1).take 31, (strTrim raw.2.1).take 31,
    (strTrim (raw.2.2.take (2045 - raw.1.length - raw.2.1.length))).take 31)

/-- Both separators are copied, and no field is blank. -/
def cutComplete (raw : OperationKey) : Bool :=
  raw.1.length + raw.2.1.length + 2 ≤ 2047 && !strIsBlank (cutKey raw).1 && !strIsBlank (cutKey raw).2.1 &&
    !strIsBlank (cutKey raw).2.2

/-- The copies leave the fields as they are sent. -/
structure FieldsFit (raw : OperationKey) : Prop where
  node : (strTrim raw.1).length ≤ 31
  route : (strTrim raw.2.1).length ≤ 31
  slot : (strTrim (raw.2.2.take (2045 - raw.1.length - raw.2.1.length))).take 31 = strTrim raw.2.2

theorem cutKey_eq_sentKey_iff (raw : OperationKey) : cutKey raw = sentKey raw ↔ FieldsFit raw := by
  have htake : ∀ s : Str, s.take 31 = s ↔ s.length ≤ 31 := fun s => List.take_eq_self_iff s
  unfold cutKey sentKey
  rw [Prod.mk.injEq, Prod.mk.injEq, htake, htake]
  exact ⟨fun ⟨hnode, hroute, hslot⟩ => ⟨hnode, hroute, hslot⟩, fun h => ⟨h.node, h.route, h.slot⟩⟩

/-- A cut of the first bytes of a text. -/
theorem cutAt_take {c : Byte} {a b : Str} (ha : c ∉ a) (n : Nat) :
    cutAt c ((a ++ c :: b).take n) = if a.length + 1 ≤ n then some (a, b.take (n - a.length - 1)) else none := by
  rw [List.take_append]
  by_cases hn : a.length + 1 ≤ n
  · obtain ⟨k, hk⟩ : ∃ k, n - a.length = k + 1 := ⟨n - a.length - 1, by omega⟩
    rw [if_pos hn, List.take_of_length_le (by omega), hk, List.take_succ_cons, cutAt_append ha, Nat.add_sub_cancel]
  · rw [if_neg hn, show n - a.length = 0 by omega, List.take_zero, List.append_nil]
    exact cutAt_eq_none.mpr fun hm => ha (List.mem_of_mem_take hm)

/-- `split_three_fields` cuts the copy where the payload is cut, if the copy reaches so far. -/
theorem splitThreeFields_eq (payload : Str) : splitThreeFields payload itemSep 32 32 32 =
    (rawFields payload).bind fun raw =>
      if raw.1.length + raw.2.1.length + 2 ≤ 2047 then some (cutKey raw) else none := by
  have hcopy : safeStrcpy 2048 payload = payload.take 2047 := rfl
  have hno : ∀ {s : Str}, cutAt itemSep s = none → ∀ n, cutAt itemSep (s.take n) = none := fun h n =>
    cutAt_eq_none.mpr fun hm => cutAt_eq_none.mp h (List.mem_of_mem_take hm)
  unfold splitThreeFields rawFields
  rw [hcopy]
  cases hfirst : cutAt itemSep payload with
  | none =>
    rw [hno hfirst]
    rfl
  | some p =>
    obtain ⟨a, rest⟩ := p
    obtain ⟨rfl, ha⟩ := cutAt_eq_some.mp hfirst
    rw [cutAt_take ha, Option.bind_some]
    by_cases hshort : a.length + 1 ≤ 2047
    · rw [if_pos hshort]
      dsimp only
      cases hsecond : cutAt itemSep rest with
      | none =>
        rw [hno hsecond]
        rfl
      | some q =>
        obtain ⟨b, c⟩ := q
        obtain ⟨rfl, hb⟩ := cutAt_eq_some.mp hsecond
        rw [cutAt_take hb, Option.map_some, Option.bind_some]
        by_cases hroom : a.length + b.length + 2 ≤ 2047
        · rw [if_pos (by omega), if_pos hroom,
            show 2047 - a.length - 1 - b.length - 1 = 2045 - a.length - b.length by omega]
          rfl
        · rw [if_neg (by omega), if_neg hroom]
    · rw [if_neg hshort]
      cases cutAt itemSep rest with
      | none => rfl
      | some q => exact (if_neg (by dsimp only; omega)).symm

/-- What the handlers take out of a payload. -/
theorem operationFields_eq (payload : Str) : operationFields payload =
    (rawFields payload).bind fun raw => if cutComplete raw then some (cutKey raw) else none := by
  unfold operationFields
  rw [splitThreeFields_eq]
  cases rawFields payload with
  | none => rfl
  | some raw =>
    rw [Option.bind_some, Option.bind_some]
    unfold cutComplete
    by_cases hroom : raw.1.length + raw.2.1.length + 2 ≤ 2047
    · rw [if_pos hroom, decide_eq_true hroom, Bool.true_and, ← Bool.not_or, ← Bool.not_or]
      dsimp only
      cases strIsBlank (cutKey raw).1 || strIsBlank (cutKey raw).2.1 || strIsBlank (cutKey raw).2.2 <;> rfl
    · rw [if_neg hroom, decide_eq_false hroom]
      rfl

/-! ## The records found -/

/-- A text that can be a field of a request. -/
structure QueryText (s : Str) : Prop where
  notBlank : strIsBlank s = false
  trimmed : strTrim s = s
  free : ∀ b ∈ s, b ≠ itemSep ∧ b ≠ fieldSep ∧ b ≠ 13 ∧ b ≠ 10

structure QueryKey (k : OperationKey) : Prop where
  node : QueryText k.1
  route : QueryText k.2.1
  slot : QueryText k.2.2

/-- The payload that asks for a key. -/
def keyPayload (k : OperationKey) : Str := k.1 ++ [itemSep] ++ k.2.1 ++ [itemSep] ++ k.2.2

section

variable [CDouble D] {α : Type}

/-- The record that is reported to a payload. -/
def OperationService.returned (svc : OperationService D α) (data : AppData D) (payload : Str) : Option α :=
  (operationFields payload).bind (firstWithKey (svc.records data) svc.key)

/-- The request with a key is answered by the first record that has it. -/
def OperationService.Reports (svc : OperationService D α) (data : AppData D) (env : Env) (fs : UserFiles)
    (k : OperationKey) : Prop :=
  ∃ r, firstWithKey (svc.records data) svc.key k = some r ∧
    (routeRequest data env fs (requestLine svc.request (keyPayload k)) maxPacketSize).1 =
      message maxPacketSize svc.result .ok (svc.report data r)

/-- A payload is not answered by a record with another key than it sends. -/
def OperationService.ReturnsSent (svc : OperationService D α) (data : AppData D) (payload : Str) : Prop :=
  ∀ r, svc.returned data payload = some r → ∃ raw, rawFields payload = some raw ∧ svc.key r = sentKey raw

/-- Which requests of a service are answered as they should be. -/
structure QueriesDecided (svc : OperationService D α) (data : AppData D) : Prop where
  /-- The record returned is the one reported, and without one the answer is no success. -/
  answer : ∀ env fs line, (splitRequest line).1 = svc.request →
    (∀ r, svc.returned data (splitRequest line).2 = some r →
      (routeRequest data env fs line maxPacketSize).1 = message maxPacketSize svc.result .ok (svc.report data r)) ∧
    (svc.returned data (splitRequest line).2 = none →
      (routeRequest data env fs line maxPacketSize).1.code ≠ .ok)
  /-- A record can be asked for by its key exactly when its route number fits the array. -/
  reports_iff : ∀ r ∈ svc.records data, QueryKey (svc.key r) → ∀ env fs,
    (svc.Reports data env fs (svc.key r) ↔ (svc.key r).2.1.length ≤ 31)
  /-- Only what is sent is returned exactly when the copies keep the fields, or leave of them no key of a record. -/
  sent_iff : ∀ payload, svc.ReturnsSent data payload ↔
    ∀ raw, rawFields payload = some raw → cutComplete raw = true →
      FieldsFit raw ∨ ∀ r ∈ svc.records data, svc.key r ≠ cutKey raw

variable {svc : OperationService D α} {data : AppData D}

theorem firstWithKey_some {records : List α} {key : α → OperationKey} {k : OperationKey} {r : α}
    (h : firstWithKey records key k = some r) : r ∈ records ∧ key r = k := by
  unfold firstWithKey at h
  exact ⟨List.mem_of_find?_eq_some h, by simpa using List.find?_some h⟩

theorem firstWithKey_of_mem {records : List α} (key : α → OperationKey) {r : α} (h : r ∈ records) :
    ∃ r', firstWithKey records key (key r) = some r' :=
  Option.ne_none_iff_exists'.mp fun hnone =>
    absurd (decide_eq_true rfl) (List.find?_eq_none.mp hnone r h)

theorem OperationService.reply_some (env : Env) (fs : UserFiles) {line : List Byte} (size : Nat)
    (hline : (splitRequest line).1 = svc.request) {r : α} (h : svc.returned data (splitRequest line).2 = some r) :
    (routeRequest data env fs line size).1 = message size svc.result .ok (svc.report data r) := by
  obtain ⟨fields, hfields, hr⟩ := Option.bind_eq_some_iff.mp h
  rw [svc.handles data env fs line size hline]
  unfold operationReply
  rw [hfields]
  dsimp only
  rw [hr]

theorem OperationService.reply_none (env : Env) (fs : UserFiles) {line : List Byte} (size : Nat)
    (hline : (splitRequest line).1 = svc.request) (h : svc.returned data (splitRequest line).2 = none) :
    (routeRequest data env fs line size).1.code ≠ .ok := by
  unfold OperationService.returned at h
  rw [svc.handles data env fs line size hline]
  unfold operationReply
  cases hfields : operationFields (splitRequest line).2 with
  | none => exact fun hcode => by cases hcode
  | some fields =>
    rw [hfields, Option.bind_some] at h
    dsimp only
    rw [h]
    exact fun hcode => by cases hcode

/-! ## The key of a record -/

theorem QueryText.not_mem {s : Str} (h : QueryText s) : itemSep ∉ s := fun hm => (h.free _ hm).1 rfl

/-- The beginning of a trimmed text is not blank. -/
theorem QueryText.take_notBlank {s : Str} (h : QueryText s) {n : Nat} (hn : 0 < n) : strIsBlank (s.take n) = false := by
  obtain ⟨hhead, -, -⟩ := strTrim_eq_self_iff.mp h.trimmed
  cases s with
  | nil => exact absurd h.notBlank (by decide)
  | cons b s =>
    obtain ⟨m, rfl⟩ : ∃ m, n = m + 1 := ⟨n - 1, by omega⟩
    rw [List.take_succ_cons]
    unfold strIsBlank
    rw [List.all_cons, hhead b rfl, Bool.false_and]

theorem rawFields_keyPayload {k : OperationKey} (h : QueryKey k) : rawFields (keyPayload k) = some k := by
  unfold rawFields keyPayload
  rw [List.append_assoc, List.append_assoc, List.append_assoc, List.singleton_append, cutAt_append h.node.not_mem,
    Option.bind_some]
  dsimp only
  rw [List.singleton_append, cutAt_append h.route.not_mem]
  rfl

theorem cutKey_of_query {k : OperationKey} (h : QueryKey k) (hnode : k.1.length ≤ 31) (hroute : k.2.1.length ≤ 127)
    (hslot : k.2.2.length ≤ 31) : cutKey k = (k.1, k.2.1.take 31, k.2.2) ∧ cutComplete k = true := by
  have hkey : cutKey k = (k.1, k.2.1.take 31, k.2.2) := by
    unfold cutKey
    rw [h.node.trimmed, h.route.trimmed, List.take_of_length_le hnode,
      List.take_of_length_le (show k.2.2.length ≤ 2045 - k.1.length - k.2.1.length by omega), h.slot.trimmed,
      List.take_of_length_le hslot]
  refine ⟨hkey, ?_⟩
  unfold cutComplete
  rw [hkey, h.node.notBlank, h.route.take_notBlank (by decide), h.slot.notBlank, decide_eq_true (by omega)]
  rfl

theorem splitRequest_keyPayload (svc : OperationService D α) {k : OperationKey} (h : QueryKey k)
    (hlen : (keyPayload k).length ≤ 32000) (hnul : 0 ∉ keyPayload k) :
    splitRequest (requestLine svc.request (keyPayload k)) = (svc.request, keyPayload k) := by
  refine splitRequest_requestLine svc.name hnul ?_ hlen
  refine stripNewline_append (stripNewline_of_free ?_ ?_) (ne_nil_of_not_blank h.slot.notBlank)
  · exact fun hm => (h.slot.free _ hm).2.2.2 rfl
  · exact fun hm => (h.slot.free _ hm).2.2.1 rfl

/-- Two answers are only the same if they report the same route number. -/
theorem OperationService.route_of_message (svc : OperationService D α) (data : AppData D) {r s : α}
    (hr : itemSep ∉ (svc.key r).2.1) (hs : itemSep ∉ (svc.key s).2.1)
    (h : message maxPacketSize svc.result .ok (svc.report data r) =
      message maxPacketSize svc.result .ok (svc.report data s)) : (svc.key r).2.1 = (svc.key s).2.1 := by
  have hsize : maxPacketSize = 32768 := rfl
  have hfirst : ∀ t : α, itemSep ∉ (svc.key t).2.1 → ∃ rest,
      cutAt itemSep (message maxPacketSize svc.result .ok (svc.report data t)).response =
        some (header svc.result .ok ++ (svc.key t).2.1, rest) := by
    intro t ht
    obtain ⟨rest, hreport⟩ := svc.reportRoute data t
    have hheader := svc.headerShort
    have hroute := svc.routeFits t
    have hfree : itemSep ∉ header svc.result .ok ++ (svc.key t).2.1 := by
      rw [List.mem_append, not_or]
      exact ⟨svc.colonFree, ht⟩
    have hcut := @cutAt_take itemSep _ (rest ++ [packetTerm]) hfree (maxPacketSize - 1)
    rw [if_pos (by rw [List.length_append]; omega)] at hcut
    refine ⟨_, Eq.trans (congrArg (cutAt itemSep) ?_) hcut⟩
    show snprintf maxPacketSize _ = _
    unfold snprintf
    rw [hreport, List.append_assoc, List.append_assoc, List.append_assoc, List.cons_append]
  obtain ⟨rest, hcr⟩ := hfirst r hr
  obtain ⟨rest', hcs⟩ := hfirst s hs
  rw [h, hcs, Option.some_inj, Prod.mk.injEq] at hcr
  exact (List.append_cancel_left hcr.1).symm

/-! ## Which requests are answered -/

theorem OperationService.reports_iff (hnul : ∀ r ∈ svc.records data, 0 ∉ keyPayload (svc.key r)) {r : α}
    (hr : r ∈ svc.records data) (hk : QueryKey (svc.key r)) (env : Env) (fs : UserFiles) :
    svc.Reports data env fs (svc.key r) ↔ (svc.key r).2.1.length ≤ 31 := by
  have hnode := svc.nodeFits r
  have hroute := svc.routeFits r
  have hslot := svc.slotFits r
  obtain ⟨hkey, hcomplete⟩ := cutKey_of_query hk hnode hroute hslot
  have hlen : (keyPayload (svc.key r)).length ≤ 32000 := by
    unfold keyPayload
    simp only [List.length_append, List.length_singleton]
    omega
  have hsplit := splitRequest_keyPayload svc hk hlen (hnul r hr)
  have hreturned : svc.returned data (keyPayload (svc.key r)) =
      firstWithKey (svc.records data) svc.key (cutKey (svc.key r)) := by
    unfold OperationService.returned
    rw [operationFields_eq, rawFields_keyPayload hk, Option.bind_some, if_pos hcomplete, Option.bind_some]
  have hline : (splitRequest (requestLine svc.request (keyPayload (svc.key r)))).1 = svc.request := by rw [hsplit]
  constructor
  · rintro ⟨first, hfirst, hreply⟩
    have hfirstKey := (firstWithKey_some hfirst).2
    cases hfound : firstWithKey (svc.records data) svc.key (cutKey (svc.key r)) with
    | none =>
      have hcode := svc.reply_none env fs maxPacketSize hline (by rw [hsplit, hreturned, hfound])
      exact absurd (congrArg Reply.code hreply) hcode
    | some found =>
      have hanswer := svc.reply_some env fs maxPacketSize hline (by rw [hsplit, hreturned, hfound])
      have hfoundKey := (firstWithKey_some hfound).2
      have hsame : (svc.key found).2.1 = (svc.key first).2.1 := by
        refine svc.route_of_message data ?_ ?_ (hanswer.symm.trans hreply)
        · rw [hfoundKey, hkey]
          exact fun hm => hk.route.not_mem (List.mem_of_mem_take hm)
        · rw [hfirstKey]
          exact hk.route.not_mem
      rw [hfoundKey, hfirstKey, hkey] at hsame
      exact List.take_eq_self_iff _ |>.mp hsame
  · intro hshort
    obtain ⟨first, hfirst⟩ := firstWithKey_of_mem svc.key hr
    have hsame : cutKey (svc.key r) = svc.key r := by
      rw [hkey, List.take_of_length_le hshort]
    refine ⟨first, hfirst, svc.reply_some env fs maxPacketSize hline ?_⟩
    rw [hsplit, hreturned, hsame, hfirst]

theorem OperationService.sent_iff (svc : OperationService D α) (data : AppData D) (payload : Str) :
    svc.ReturnsSent data payload ↔ ∀ raw, rawFields payload = some raw → cutComplete raw = true →
      FieldsFit raw ∨ ∀ r ∈ svc.records data, svc.key r ≠ cutKey raw := by
  unfold OperationService.ReturnsSent OperationService.returned
  rw [operationFields_eq]
  cases rawFields payload with
  | none => simp
  | some raw =>
    simp only [Option.bind_some, Option.some_inj, forall_eq', exists_eq_left']
    cases hcomplete : cutComplete raw with
    | false => simp
    | true =>
      rw [if_pos rfl, Option.bind_some, ← cutKey_eq_sentKey_iff]
      constructor
      · intro hreturn _
        cases hfound : firstWithKey (svc.records data) svc.key (cutKey raw) with
        | none =>
          refine .inr fun r hr hkey => ?_
          obtain ⟨r', hr'⟩ := firstWithKey_of_mem svc.key hr
          rw [hkey, hfound] at hr'
          cases hr'
        | some found => exact .inl ((firstWithKey_some hfound).2.symm.trans (hreturn found hfound))
      · intro hfit r hfound
        obtain ⟨hr, hkey⟩ := firstWithKey_some hfound
        rcases hfit rfl with hsame | hnone
        · exact hkey.trans hsame
        · exact absurd hkey (hnone r hr)

theorem OperationService.decided (hnul : ∀ r ∈ svc.records data, 0 ∉ keyPayload (svc.key r)) :
    QueriesDecided svc data where
  answer env fs _ hline :=
    ⟨fun _ => svc.reply_some env fs maxPacketSize hline, svc.reply_none env fs maxPacketSize hline⟩
  reports_iff _ hr hk := svc.reports_iff hnul hr hk
  sent_iff := svc.sent_iff data

end

section

variable [CDouble D]

theorem nul_not_mem_copy (n : Nat) (header : CsvRow) (line : List Byte) (name : Str) :
    0 ∉ (CStr.copy n (column header (csvParseLine (cstr line)) name)).val := by
  have hline : (0 : Byte) ∉ cstr line := fun hm => absurd (List.mem_takeWhile_imp hm) (by decide)
  exact fun hm => not_mem_column (.inr (.inr hline)) header name (List.mem_of_mem_take hm)

theorem nul_not_mem_keyPayload {k : OperationKey} (hnode : 0 ∉ k.1) (hroute : 0 ∉ k.2.1) (hslot : 0 ∉ k.2.2) :
    0 ∉ keyPayload k := by
  unfold keyPayload
  simp only [List.mem_append, List.mem_singleton, not_or]
  exact ⟨⟨⟨⟨hnode, by decide⟩, hroute⟩, by decide⟩, hslot⟩

/-- The requests for the records loaded from any files. -/
theorem operationQueries (files : CsvFiles) :
    QueriesDecided arrivalService (loadedData files : AppData D) ∧
    QueriesDecided crowdingService (loadedData files : AppData D) := by
  obtain ⟨g, hdata⟩ := dataLoaderLoad_records (D := D) files
  unfold loadedData
  rw [hdata]
  constructor
  · refine OperationService.decided fun r hr => ?_
    obtain ⟨header, line, hline⟩ := line_of_mem_csvRecords (List.mem_reverse.mp hr)
    cases hline
    exact nul_not_mem_keyPayload (nul_not_mem_copy _ _ _ _) (nul_not_mem_copy _ _ _ _) (nul_not_mem_copy _ _ _ _)
  · refine OperationService.decided fun r hr => ?_
    obtain ⟨header, line, hline⟩ := line_of_mem_csvRecords (List.mem_reverse.mp hr)
    cases hline
    exact nul_not_mem_keyPayload (nul_not_mem_copy _ _ _ _) (nul_not_mem_copy _ _ _ _) (nul_not_mem_copy _ _ _ _)

end

/-! ## A long route number -/

def longRoute : Str := List.replicate 32 57

/-- One bus that is expected, on a route with a number of 32 digits. -/
def longRouteFiles : CsvFiles where
  busStops := some (utf8 "stop_id,stop_name\nS,S\n")
  busRoutes := some (utf8 "route_no,route_name,start_stop_id,end_stop_id\n1,1,S,S\n")
  routeStops := some (utf8 "route_no,seq,stop_id\n1,1,S\n")
  subwayStations := some (utf8 "station_id,station_name,line_no\nT,T,1\n")
  subwayDistances := some (utf8 "from_station_id,to_station_id,distance_km,estimated_minutes\nT,T,,2\n")
  facilities := some (utf8 "facility_id,name,category,nearest_node_id\n")
  arrivalTest := some (utf8 "route_no,node_id,time_slot,arrival_minutes,status\n" ++ longRoute ++ utf8 ",S,0900,5,OK\n")
  crowdingTest := some (utf8 "route_no,node_id,time_slot,crowding_level\n")

/-- The record is loaded, and a request with its key finds nothing. -/
theorem operationQueries_longRoute : (dataLoaderLoad longRouteFiles : AppData ℚ × Bool).2 = true ∧
    ∃ r ∈ (loadedData longRouteFiles : AppData ℚ).arrivals, QueryKey (r.nodeId.val, r.routeNo.val, r.timeSlot.val) ∧
      ∀ env fs, ¬ arrivalService.Reports (loadedData longRouteFiles : AppData ℚ) env fs
        (r.nodeId.val, r.routeNo.val, r.timeSlot.val) := by
  have hkeys : (loadedData longRouteFiles : AppData ℚ).arrivals.map
      (fun r => (r.nodeId.val, r.routeNo.val, r.timeSlot.val)) = [(utf8 "S", longRoute, utf8 "0900")] := by
    decide +kernel
  have hfree : ∀ s ∈ [utf8 "S", longRoute, utf8 "0900"], strIsBlank s = false ∧ strTrim s = s ∧
      ∀ b ∈ s, b ≠ itemSep ∧ b ≠ fieldSep ∧ b ≠ 13 ∧ b ≠ 10 := by decide +kernel
  have htext : ∀ s ∈ [utf8 "S", longRoute, utf8 "0900"], QueryText s := fun s hs =>
    ⟨(hfree s hs).1, (hfree s hs).2.1, (hfree s hs).2.2⟩
  have hquery : QueryKey (utf8 "S", longRoute, utf8 "0900") :=
    ⟨htext _ (by simp), htext _ (by simp), htext _ (by simp)⟩
  obtain ⟨r, hr, hkey⟩ := List.mem_map.mp (hkeys ▸ List.mem_singleton_self _)
  refine ⟨by decide +kernel, r, hr, ?_⟩
  rw [hkey]
  refine ⟨hquery, fun env fs hreports => ?_⟩
  obtain ⟨first, -, hreply⟩ := hreports
  have hsplit := splitRequest_keyPayload (arrivalService : OperationService ℚ _) hquery (by decide) (by decide +kernel)
  have hnone : (arrivalService : OperationService ℚ _).returned (loadedData longRouteFiles)
      (keyPayload (utf8 "S", longRoute, utf8 "0900")) = none := by decide +kernel
  exact OperationService.reply_none env fs maxPacketSize (by rw [hsplit]) (by rw [hsplit, hnone])
    (congrArg Reply.code hreply)

end Transit
