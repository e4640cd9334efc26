import Transit.Framework.Folds
import Transit.Proof.TransferDecode

/-!
# Counting transfers on both sides

`count_transfers` and the loop of `show_transfer_result` carry the line of the
last ride and whether a transfer segment came after it (`SameRide`). The server
counts the transfer segments and the rides behind a ride on another line
(`countTransfers_eq`), in either direction of the path.

* `transferCounts_agree`: the client adds a note at just the segments that the
  server counted.
-/

namespace Transit

open Framework

variable {D : Type}

/-- Two rides on different lines. -/
def lineChange (a b : CStr maxRouteLen) : Bool :=
  !isTransferSegment a && !isTransferSegment b && a.val != b.val

/-- The path from its end to its beginning. -/
def GraphPath.reversed (path : GraphPath) : GraphPath where
  indices := path.indices.reverse
  segmentRoutes := path.segmentRoutes.reverse
  segmentMinutes := path.segmentMinutes.reverse
  totalMinutes := path.totalMinutes

/-- Whether `count_transfers` increments its counter at a segment. -/
def counted (st : TransferCount) (route : CStr maxRouteLen) : Bool := (countSegment st route).count ≠ st.count

/-- For each segment, whether `count_transfers` increments its counter there. -/
def countedSegments (path : GraphPath) : List Bool :=
  if path.count ≤ 1 then [] else outputs countSegment counted path.segmentRoutes ⟨0, false, []⟩

/-- Whether the viewer adds a note for a step. -/
def noted (st : StepsView) (fields : List Str) : Bool :=
  8 ≤ fields.length &&
    (transferNote st ((fields[1]?).getD []) ((fields[3]?).getD []) ((fields[5]?).getD [])).isSome

/-- The variables with which the viewer enters its loop. -/
def stepsStart (parts : TransferParts) : StepsView where
  printed := printPathSummary parts.path ++ utf8 "환승 횟수: " ++ parts.count ++ utf8 "\n예상 소요시간: " ++
    parts.minutes ++ utf8 "분\n" ++ utf8 "\n구간별 이동:\n"
  transferNotes := []
  lastRide := []
  afterTransferBridge := false
  stepIndex := 1

/-- For each step of a response, whether the viewer adds a note. -/
def notedSegments (response : Str) : List Bool :=
  match transferParts (responseHeader response).payload with
  | none => []
  | some parts => outputs showStep noted (stepsFields parts.steps) (stepsStart parts)

/-! ## The server's count -/

/-- What the variables say about the segment before. -/
def AfterSegment (prev : Option (CStr maxRouteLen)) (st : TransferCount) : Prop :=
  match prev with
  | none => st.sawTransferBridge = false ∧ st.lastRide = []
  | some route =>
    if isTransferSegment route then st.sawTransferBridge = true
    else st.sawTransferBridge = false ∧ st.lastRide = route.val

/-- A segment counts as a transfer or as a change of line. -/
theorem countSegment_spec {prev : Option (CStr maxRouteLen)} (hprev : ∀ p ∈ prev, p.val ≠ []) {st : TransferCount}
    (h : AfterSegment prev st) (route : CStr maxRouteLen) :
    (countSegment st route).count =
        st.count + (isTransferSegment route).toNat + (prev.any (lineChange · route)).toNat ∧
      AfterSegment (some route) (countSegment st route) := by
  unfold countSegment
  cases ht : isTransferSegment route with
  | true =>
    have hnone : prev.any (lineChange · route) = false := by
      cases prev <;> simp [lineChange, ht]
    rw [if_pos rfl, hnone]
    exact ⟨by simp, by simp [AfterSegment, ht]⟩
  | false =>
    refine ⟨?_, by simp [AfterSegment, ht]⟩
    rw [if_neg Bool.false_ne_true]
    cases prev with
    | none =>
      rw [AfterSegment] at h
      simp [h.2]
    | some p =>
      have hp := hprev p rfl
      rw [AfterSegment] at h
      cases hpt : isTransferSegment p with
      | true =>
        rw [if_pos hpt] at h
        simp [h, lineChange, hpt]
      | false =>
        rw [if_neg (by simp [hpt])] at h
        rw [h.1, h.2]
        by_cases hne : p.val = route.val
        · simp [lineChange, hne]
        · have hbne : (p.val != route.val) = true := bne_iff_ne.mpr hne
          simp [lineChange, hpt, ht, hp, hne, hbne]

theorem foldl_countSegment {routes : List (CStr maxRouteLen)} {prev : Option (CStr maxRouteLen)}
    (hprev : ∀ p ∈ prev, p.val ≠ []) (hroutes : ∀ r ∈ routes, r.val ≠ []) {st : TransferCount}
    (h : AfterSegment prev st) :
    (routes.foldl countSegment st).count =
      st.count + routes.countP (isTransferSegment ·.val) + adjacent lineChange (prev.toList ++ routes) := by
  induction routes generalizing prev st with
  | nil => cases prev <;> simp [adjacent]
  | cons route rest ih =>
    rw [List.forall_mem_cons] at hroutes
    obtain ⟨hcount, hafter⟩ := countSegment_spec hprev h route
    have hadj : adjacent lineChange (prev.toList ++ route :: rest) =
        (prev.any (lineChange · route)).toNat + adjacent lineChange (route :: rest) := by
      cases prev with
      | none => simp
      | some p => rfl
    rw [List.foldl_cons, ih (fun p hp => by cases hp; exact hroutes.1) hroutes.2 hafter, hcount, hadj,
      List.countP_cons, Option.toList_some, List.singleton_append]
    cases isTransferSegment route.val <;> simp <;> omega

/-- The transfer segments, and the rides behind a ride on another line. -/
theorem countTransfers_eq {path : GraphPath} (hlen : path.segmentRoutes.length = path.count - 1)
    (hroutes : ∀ r ∈ path.segmentRoutes, r.val ≠ []) :
    countTransfers path =
      path.segmentRoutes.countP (isTransferSegment ·.val) + adjacent lineChange path.segmentRoutes := by
  unfold countTransfers
  by_cases hone : path.count ≤ 1
  · have hnil : path.segmentRoutes = [] := List.length_eq_zero_iff.mp (by omega)
    rw [if_pos hone, hnil]
    rfl
  · have hprev : ∀ p ∈ (none : Option (CStr maxRouteLen)), p.val ≠ [] := nofun
    rw [if_neg hone, foldl_countSegment hprev hroutes ⟨rfl, rfl⟩]
    simp

theorem countTransfers_reversed {path : GraphPath} (hlen : path.segmentRoutes.length = path.count - 1)
    (hroutes : ∀ r ∈ path.segmentRoutes, r.val ≠ []) : countTransfers path.reversed = countTransfers path := by
  have hsymm : ∀ a b, lineChange a b = lineChange b a := fun a b => by
    unfold lineChange
    rw [Bool.and_comm (!isTransferSegment a.val), bne_comm]
  have hreversed : countTransfers path.reversed =
      path.segmentRoutes.reverse.countP (isTransferSegment ·.val) + adjacent lineChange path.segmentRoutes.reverse :=
    countTransfers_eq (by simpa [GraphPath.reversed, GraphPath.count] using hlen) fun r hr =>
      hroutes r (List.mem_reverse.mp hr)
  rw [hreversed, countTransfers_eq hlen hroutes, List.countP_reverse, adjacent_reverse hsymm]

/-! ## The client's notes -/

/-- The variables that both loops carry. -/
def SameRide (st : TransferCount) (view : StepsView) : Prop :=
  view.lastRide = st.lastRide ∧ view.afterTransferBridge = st.sawTransferBridge

/-- A step that the viewer took apart and the route of its segment. -/
def StepOf (route : CStr maxRouteLen) (fields : List Str) : Prop :=
  8 ≤ fields.length ∧ (fields[3]?).getD [] = route.val

theorem showStep_ride {route : CStr maxRouteLen} {fields : List Str} (h : StepOf route fields) (view : StepsView) :
    (showStep view fields).lastRide = (if isTransferSegment route then view.lastRide else route.val) ∧
      (showStep view fields).afterTransferBridge = isTransferSegment route := by
  have hcopy : safeStrcpy maxRouteLen route.val = route.val := snprintf_of_le route.2
  unfold showStep
  rw [if_neg (Nat.not_lt.mpr h.1)]
  simp only [h.2, hcopy]
  exact ⟨rfl, rfl⟩

theorem stepsMatch_of_stepOf {route : CStr maxRouteLen} {fields : List Str} (h : StepOf route fields) :
    StepsMatch countSegment counted showStep noted SameRide route fields := by
  intro st view ⟨hride, hbridge⟩
  obtain ⟨hnextRide, hnextBridge⟩ := showStep_ride h view
  unfold SameRide
  rw [hnextRide, hnextBridge]
  unfold counted noted transferNote countSegment
  rw [h.2, hride, hbridge, decide_eq_true h.1, Bool.true_and]
  cases ht : isTransferSegment route with
  | true =>
    have hmark : (route.val == utf8 "TRANSFER") = true := ht
    rw [if_pos rfl, if_pos rfl, if_pos hmark]
    exact ⟨decide_eq_true (Int.ne_of_gt (Int.lt_succ st.count)), rfl, rfl⟩
  | false =>
    have hnot : ¬ (route.val == utf8 "TRANSFER") = true := Bool.eq_false_iff.mp ht
    rw [if_neg Bool.false_ne_true, if_neg Bool.false_ne_true, if_neg hnot]
    refine ⟨?_, rfl, rfl⟩
    by_cases hnew : st.lastRide ≠ [] ∧ st.lastRide ≠ route.val ∧ !st.sawTransferBridge
    · rw [if_pos hnew, if_pos hnew]
      exact decide_eq_true (Int.ne_of_gt (Int.lt_succ st.count))
    · rw [if_neg hnew, if_neg hnew]
      exact decide_eq_false (fun hne => hne rfl)

variable [CDouble D] {data : AppData D} {path : GraphPath}

/-- The steps are those of the segments, in order. -/
theorem forall₂_pathSegments (hp : PathRecord data.graph path) :
    List.Forall₂ StepOf path.segmentRoutes (pathSegments data path) := by
  refine List.forall₂_iff_get.mpr ⟨hp.routes_length.trans (length_pathSegments hp).symm, fun i h1 h2 => ?_⟩
  unfold pathSegments
  rw [List.get_eq_getElem, List.get_eq_getElem, List.getElem_zipWith, List.getElem_zip, List.getElem_zip]
  exact ⟨show 8 ≤ 9 by decide, rfl⟩

theorem notedSegments_eq (hp : PathRecord data.graph path) (hminutes : ∀ m ∈ path.segmentMinutes, IsInt32 m)
    (hl : PathTexts data path) (hfit : (transferText data path).length ≤ maxPacketSize - 2) :
    notedSegments (transferResponse data path maxPacketSize) = countedSegments path := by
  obtain ⟨hpayload, hlen⟩ := payload_transferText hl hfit
  rw [transferResponse_eq hp, if_pos hfit]
  unfold notedSegments countedSegments
  rw [hpayload, transferParts_body hl hlen]
  dsimp only
  rw [stepsFields_steps hminutes hl hlen]
  have hmatch := (forall₂_pathSegments hp).imp fun _ _ => stepsMatch_of_stepOf
  by_cases hone : path.count ≤ 1
  · have hnil : path.segmentRoutes = [] := List.length_eq_zero_iff.mp (by have := hp.routes_length; omega)
    rw [if_pos hone]
    rw [hnil, List.forall₂_nil_left_iff] at hmatch
    rw [hmatch]
    rfl
  · rw [if_neg hone]
    exact (outputs_eq_outputs hmatch ⟨rfl, rfl⟩).symm

/-- The server's count is that of the transfer segments and the changes of line, the same
for the way back, and the client adds its notes where the server counted. -/
theorem transferCounts_agree (hp : PathRecord data.graph path) (hminutes : ∀ m ∈ path.segmentMinutes, IsInt32 m)
    (hl : PathTexts data path) :
    countTransfers path =
        path.segmentRoutes.countP (isTransferSegment ·.val) + adjacent lineChange path.segmentRoutes ∧
      countTransfers path.reversed = countTransfers path ∧
      ((transferText data path).length ≤ maxPacketSize - 2 →
        notedSegments (transferResponse data path maxPacketSize) = countedSegments path) := by
  have hroutes : ∀ r ∈ path.segmentRoutes, r.val ≠ [] := fun r hr => (hl.routes r hr).ne_nil
  exact ⟨countTransfers_eq hp.routes_length hroutes, countTransfers_reversed hp.routes_length hroutes,
    notedSegments_eq hp hminutes hl⟩

/-- There by bus 7 and back by bus 8. -/
def changePath : GraphPath := ⟨[0, 1, 0], [.copy _ (utf8 "7"), .copy _ (utf8 "8")], [5, 6], 11⟩

theorem transferCounts_changePath :
    countTransfers changePath = 1 ∧
      notedSegments (transferResponse twoNodeData changePath maxPacketSize) = [false, true] := by
  have hp : PathRecord twoNodeData.graph changePath :=
    ⟨by decide, by decide +kernel, by decide, by decide, by decide, by decide⟩
  have hminutes : ∀ m ∈ changePath.segmentMinutes, IsInt32 m := fun m hm => by
    simp only [changePath, List.mem_cons, List.not_mem_nil, or_false] at hm
    rcases hm with rfl | rfl <;> exact ⟨by decide, by decide⟩
  have hl : PathLabels twoNodeData changePath := by decide +kernel
  obtain ⟨hcount, -, hnotes⟩ := transferCounts_agree hp hminutes hl.texts
  exact ⟨hcount.trans (by decide +kernel), (hnotes (by decide +kernel)).trans (by decide +kernel)⟩

end Transit
