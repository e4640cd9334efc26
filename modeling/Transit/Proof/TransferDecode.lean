import Transit.Proof.Framing
import Transit.Proof.ListText

/-!
# Decoding the answer to a path request

Four separators nest in a `TRANSFER_RES`: `:` between its parts, `,` between
the names, `;` between the steps and `~` between the fields of a step. Where
the labels on the path have none of them, the viewer takes out what
`handle_transfer` put in (`transferReply_decode`).
-/

namespace Transit

open Framework

variable {D : Type}

/-- The separators, and the characters that end a line. -/
def pathSeparators : Str := [nameSep, itemSep, listSep, stepSep, 13, 10]

/-- A text that keeps its place in a response. -/
structure Label (s : Str) : Prop where
  ne_nil : s ≠ []
  separators : ∀ c ∈ pathSeparators, c ∉ s

/-- The nodes of a path. -/
def nodesOnPath (data : AppData D) (path : GraphPath) : List (GraphNode D) :=
  path.indices.filterMap (nodeAt data)

/-- The ids, names, types and routes on a path are such texts. -/
structure PathLabels (data : AppData D) (path : GraphPath) : Prop where
  nodes : ∀ node ∈ nodesOnPath data path, Label node.nodeId ∧ Label node.nodeName ∧ Label node.nodeType
  routes : ∀ route ∈ path.segmentRoutes, Label route

/-- Of the nodes only the separators matter where nothing is taken out by its place in a list. -/
structure PathTexts (data : AppData D) (path : GraphPath) : Prop where
  nodes : ∀ node ∈ nodesOnPath data path, ∀ c ∈ pathSeparators,
    c ∉ node.nodeId.val ∧ c ∉ node.nodeName.val ∧ c ∉ node.nodeType.val
  routes : ∀ route ∈ path.segmentRoutes, Label route

theorem PathLabels.texts {data : AppData D} {path : GraphPath} (h : PathLabels data path) : PathTexts data path where
  nodes node hnode c hc :=
    have ⟨hid, hname, htype⟩ := h.nodes node hnode
    ⟨hid.separators c hc, hname.separators c hc, htype.separators c hc⟩
  routes := h.routes

theorem label_iff {s : Str} : Label s ↔ s ≠ [] ∧ (pathSeparators.all fun c => !s.contains c) = true := by
  simp only [List.all_eq_true, Bool.not_eq_true', ← Bool.not_eq_true, List.contains_iff_mem]
  exact ⟨fun h => ⟨h.ne_nil, h.separators⟩, fun h => ⟨h.1, h.2⟩⟩

instance (s : Str) : Decidable (Label s) := decidable_of_iff' _ label_iff

instance (data : AppData D) (path : GraphPath) : Decidable (PathLabels data path) :=
  decidable_of_iff ((∀ node ∈ nodesOnPath data path, Label node.nodeId ∧ Label node.nodeName ∧ Label node.nodeType) ∧
    ∀ route ∈ path.segmentRoutes, Label route) ⟨fun h => ⟨h.1, h.2⟩, fun h => ⟨h.nodes, h.routes⟩⟩

/-- The weights are values of `int`, as the type of the field has it. -/
def IntWeights (g : TransferGraph D) : Prop := ∀ u, ∀ e ∈ g.edgesAt u, IsInt32 e.weightMin

/-- What the viewer takes out of a path response. -/
structure TransferView where
  nodes : List Str
  count : Str
  minutes : Str
  steps : List (List Str)
  deriving DecidableEq

/-- How the client takes a path response apart. -/
def transferView (response : Str) : Option TransferView :=
  (transferParts (responseHeader response).payload).map fun parts =>
    ⟨pathNodes parts.path, parts.count, parts.minutes, stepsFields parts.steps⟩

section

variable [CDouble D]

/-- The nine fields of the segment from `u` to `v`. -/
def segmentFields (data : AppData D) (u v : GraphNode D) (route : Str) (minutes : Int) : List Str :=
  [u.nodeId, u.nodeName, u.nodeType, route, v.nodeId, v.nodeName, v.nodeType, fmtInt minutes,
    distanceText data u v route]

/-- The segments of a path, in order. -/
def pathSegments (data : AppData D) (path : GraphPath) : List (List Str) :=
  List.zipWith (fun (p : GraphNode D × GraphNode D) (s : CStr maxRouteLen × Int) =>
      segmentFields data p.1 p.2 s.1 s.2)
    ((nodesOnPath data path).zip (nodesOnPath data path).tail) (path.segmentRoutes.zip path.segmentMinutes)

/-- What was put into the answer for a path. -/
def pathView (data : AppData D) (path : GraphPath) : TransferView where
  nodes := pathNames data path
  count := fmtInt (countTransfers path)
  minutes := fmtInt path.totalMinutes
  steps := pathSegments data path

end

/-! ## How long the path is -/

theorem length_nodesOnPath {data : AppData D} {path : GraphPath} (h : PathRecord data.graph path) :
    (nodesOnPath data path).length = path.count := by
  have hsome : ∀ i ∈ path.indices, ∃ node, nodeAt data i = some node := fun i hi =>
    ⟨_, List.getElem?_eq_getElem (h.indices_lt i hi)⟩
  unfold nodesOnPath GraphPath.count
  generalize path.indices = indices at hsome
  induction indices with
  | nil => rfl
  | cons i rest ih =>
    rw [List.forall_mem_cons] at hsome
    obtain ⟨node, hnode⟩ := hsome.1
    rw [List.filterMap_cons_some hnode, List.length_cons, List.length_cons, ih hsome.2]

theorem length_pathSegments [CDouble D] {data : AppData D} {path : GraphPath} (h : PathRecord data.graph path) :
    (pathSegments data path).length = path.count - 1 := by
  unfold pathSegments
  rw [List.length_zipWith, List.length_zip, List.length_zip, List.length_tail, length_nodesOnPath h,
    h.routes_length, h.minutes_length]
  omega

/-! ## The fields -/

theorem pathSeparators_spec : ∀ c ∈ pathSeparators, (isdigit c = false ∧ c ≠ 45) ∧
    ¬ (isdigit c ∨ (97 ≤ c ∧ c ≤ 122) ∨ c = 45 ∨ c = 46) := by
  unfold pathSeparators
  simp only [List.forall_mem_cons]
  refine ⟨?_, ?_, ?_, ?_, ?_, ?_, fun c hc => by cases hc⟩
  all_goals decide

variable [CDouble D] {data : AppData D} {path : GraphPath}

theorem not_mem_distanceText {c : Byte} (h : c ∈ pathSeparators) (data : AppData D) (u v : GraphNode D) (route : Str) :
    c ∉ distanceText data u v route := by
  unfold distanceText
  split
  · dsimp only
    split
    · exact fun hm => (pathSeparators_spec c h).2 (CDouble.fmt1_plain _ c (List.mem_of_mem_take hm))
    · exact List.not_mem_nil
  · exact List.not_mem_nil

/-- A segment of the path: two of its nodes, a route and minutes. -/
structure Segment (data : AppData D) (path : GraphPath) (fields : List Str) (u v : GraphNode D)
    (route : CStr maxRouteLen) (minutes : Int) : Prop where
  fields : fields = segmentFields data u v route minutes
  from_mem : u ∈ nodesOnPath data path
  to_mem : v ∈ nodesOnPath data path
  route_mem : route ∈ path.segmentRoutes
  minutes_mem : minutes ∈ path.segmentMinutes

theorem mem_pathSegments {fields : List Str} (h : fields ∈ pathSegments data path) :
    ∃ u v route minutes, Segment data path fields u v route minutes := by
  unfold pathSegments at h
  obtain ⟨i, hi, rfl⟩ := List.mem_iff_getElem.mp h
  simp only [List.getElem_zipWith, List.getElem_zip]
  exact ⟨_, _, _, _, rfl, List.getElem_mem _, List.mem_of_mem_tail (List.getElem_mem _), List.getElem_mem _,
    List.getElem_mem _⟩

theorem not_mem_segmentFields {fields : List Str} (hl : PathTexts data path) (h : fields ∈ pathSegments data path) :
    ∀ field ∈ fields, ∀ c ∈ pathSeparators, c ∉ field := by
  obtain ⟨u, v, route, minutes, hs⟩ := mem_pathSegments h
  have hu := hl.nodes u hs.from_mem
  have hv := hl.nodes v hs.to_mem
  have hr := hl.routes route hs.route_mem
  rw [hs.fields]
  unfold segmentFields
  simp only [List.forall_mem_cons]
  exact ⟨fun c hc => (hu c hc).1, fun c hc => (hu c hc).2.1, fun c hc => (hu c hc).2.2, hr.separators,
    fun c hc => (hv c hc).1, fun c hc => (hv c hc).2.1, fun c hc => (hv c hc).2.2,
    fun c hc => not_mem_fmtInt (pathSeparators_spec c hc).1 _,
    fun c hc => not_mem_distanceText hc data u v route, fun field hf => by cases hf⟩

/-- The text of a step fits the viewer's copy of it. -/
theorem length_step_le (hminutes : ∀ m ∈ path.segmentMinutes, IsInt32 m) {fields : List Str}
    (h : fields ∈ pathSegments data path) : ([stepSep].intercalate fields).length ≤ 1023 := by
  obtain ⟨u, v, route, minutes, hs⟩ := mem_pathSegments h
  have hui : u.nodeId.val.length ≤ 31 := u.nodeId.2
  have hun : u.nodeName.val.length ≤ 99 := u.nodeName.2
  have hut : u.nodeType.val.length ≤ 15 := u.nodeType.2
  have hvi : v.nodeId.val.length ≤ 31 := v.nodeId.2
  have hvn : v.nodeName.val.length ≤ 99 := v.nodeName.2
  have hvt : v.nodeType.val.length ≤ 15 := v.nodeType.2
  have hr : route.val.length ≤ 127 := route.2
  have hm := length_fmtInt (hminutes minutes hs.minutes_mem)
  have hd : (distanceText data u v route).length ≤ 31 := by
    unfold distanceText
    split
    · dsimp only
      split
      · exact List.length_take_le _ _
      · exact Nat.zero_le _
    · exact Nat.zero_le _
  rw [hs.fields]
  unfold segmentFields
  rw [intercalate_cons_eq_flatMap]
  simp only [List.flatMap_cons, List.flatMap_nil, List.length_append, List.length_cons, List.length_nil]
  omega

/-! ## The text -/

theorem stepTexts_eq (hl : PathTexts data path) :
    stepTexts data path = (pathSegments data path).map ([stepSep].intercalate ·) := by
  unfold stepTexts pathSegments
  rw [List.map_zipWith]
  refine List.ext_getElem (by simp only [List.length_zipWith]; rfl) fun i h1 h2 => ?_
  have hi : i < (path.segmentRoutes.zip path.segmentMinutes).length := by
    rw [List.length_zipWith] at h1
    omega
  have hroute := hl.routes (path.segmentRoutes.zip path.segmentMinutes)[i].1
    (by rw [List.getElem_zip]; exact List.getElem_mem _)
  rw [List.getElem_zipWith, List.getElem_zipWith]
  unfold stepFields moveRoute
  rw [if_pos hroute.ne_nil]
  rfl

/-- What follows the header of the answer. -/
def transferBody (data : AppData D) (path : GraphPath) : Str :=
  [nameSep].intercalate (pathNames data path) ++ itemSep :: (fmtInt (countTransfers path) ++
    itemSep :: (fmtInt path.totalMinutes ++ itemSep :: [listSep].intercalate (stepTexts data path)))

theorem transferText_eq (data : AppData D) (path : GraphPath) :
    transferText data path = header pktTransferRes .ok ++ transferBody data path := by
  unfold transferText transferHead summaryText transferBody
  simp only [List.append_assoc, List.cons_append, List.nil_append]

omit [CDouble D] in
theorem label_pathNames (hl : PathLabels data path) : ∀ name ∈ pathNames data path, Label name := by
  intro name hname
  obtain ⟨node, hnode, rfl⟩ := List.mem_map.mp hname
  exact (hl.nodes node hnode).2.1

omit [CDouble D] in
theorem not_mem_names (hl : PathTexts data path) {c : Byte} (hc : c ∈ pathSeparators) (hne : c ≠ nameSep) :
    c ∉ [nameSep].intercalate (pathNames data path) :=
  not_mem_intercalate hne fun name hname => by
    obtain ⟨node, hnode, rfl⟩ := List.mem_map.mp hname
    exact (hl.nodes node hnode c hc).2.1

theorem not_mem_stepTexts (hl : PathTexts data path) {c : Byte} (hc : c ∈ pathSeparators) (hne : c ≠ stepSep) :
    ∀ step ∈ stepTexts data path, c ∉ step := by
  rw [stepTexts_eq hl]
  intro step hstep
  obtain ⟨fields, hfields, rfl⟩ := List.mem_map.mp hstep
  exact not_mem_intercalate hne fun field hf => not_mem_segmentFields hl hfields field hf c hc

/-- There is no line end in it. -/
theorem not_mem_transferBody (hl : PathTexts data path) {c : Byte} (hc : c ∈ ([13, 10] : Str)) :
    c ∉ transferBody data path := by
  obtain ⟨hsep, hname, hitem, hlist, hstep⟩ :
      c ∈ pathSeparators ∧ c ≠ nameSep ∧ c ≠ itemSep ∧ c ≠ listSep ∧ c ≠ stepSep := by
    rcases List.mem_pair.mp hc with rfl | rfl <;> decide
  have hint := not_mem_fmtInt (pathSeparators_spec c hsep).1
  unfold transferBody
  simp only [List.mem_append, List.mem_cons, not_or]
  exact ⟨not_mem_names hl hsep hname, hitem, hint _, hitem, hint _, hitem,
    not_mem_intercalate hlist (not_mem_stepTexts hl hsep hstep)⟩

theorem stripNewline_transferBody (hl : PathTexts data path) :
    stripNewline (transferBody data path) = transferBody data path := by
  refine stripNewline_eq_self_iff.mpr fun b hb => ?_
  have hm := List.mem_of_getLast? hb
  exact ⟨fun he => not_mem_transferBody hl (c := 10) (by decide) (he ▸ hm),
    fun he => not_mem_transferBody hl (c := 13) (by decide) (he ▸ hm)⟩

/-! ## Decoding -/

/-- Cutting at `:`, `,`, `;` and `~` undoes the joining. -/
theorem transferParts_body (hl : PathTexts data path) (hlen : (transferBody data path).length + 1 ≤ maxPacketSize) :
    transferParts (transferBody data path) = some ⟨[nameSep].intercalate (pathNames data path),
      fmtInt (countTransfers path), fmtInt path.totalMinutes, [listSep].intercalate (stepTexts data path)⟩ := by
  have hsize : maxPacketSize = 32768 := rfl
  have hsep : itemSep ∈ pathSeparators := by decide
  have hint := not_mem_fmtInt (pathSeparators_spec itemSep hsep).1
  have hcopy : safeStrcpy maxPacketSize (transferBody data path) = transferBody data path :=
    snprintf_of_le (by omega)
  unfold transferParts
  rw [hcopy]
  unfold transferBody
  rw [cutAt_append (not_mem_names hl hsep (by decide))]
  dsimp only
  rw [cutAt_append (hint _)]
  dsimp only
  rw [cutAt_append (hint _)]

theorem pathNodes_names (hl : PathLabels data path) (hlen : (transferBody data path).length + 1 ≤ maxPacketSize) :
    pathNodes ([nameSep].intercalate (pathNames data path)) = pathNames data path := by
  have hcopy : safeStrcpy maxPacketSize ([nameSep].intercalate (pathNames data path)) = _ := snprintf_of_le (by
    unfold transferBody at hlen
    rw [List.length_append] at hlen
    omega)
  unfold pathNodes
  rw [hcopy]
  exact tokens_intercalate (fun name hname => (label_pathNames hl name hname).separators _ (by decide))
    fun name hname => (label_pathNames hl name hname).ne_nil

theorem stepsFields_steps (hminutes : ∀ m ∈ path.segmentMinutes, IsInt32 m) (hl : PathTexts data path)
    (hlen : (transferBody data path).length + 1 ≤ maxPacketSize) :
    stepsFields ([listSep].intercalate (stepTexts data path)) = pathSegments data path := by
  have hcopy : safeStrcpy maxPacketSize ([listSep].intercalate (stepTexts data path)) = _ := snprintf_of_le (by
    unfold transferBody at hlen
    simp only [List.length_append, List.length_cons] at hlen
    omega)
  have htokens : tokens listSep ([listSep].intercalate (stepTexts data path)) = stepTexts data path :=
    tokens_intercalate (not_mem_stepTexts hl (by decide) (by decide)) stepTexts_ne_nil
  unfold stepsFields
  rw [hcopy, htokens, stepTexts_eq hl, List.map_map]
  refine (List.map_congr_left fun fields hf => ?_).trans (List.map_id _)
  have hstep : safeStrcpy 1024 ([stepSep].intercalate fields) = _ := snprintf_of_le (length_step_le hminutes hf)
  obtain ⟨u, v, route, minutes, hs⟩ := mem_pathSegments hf
  rw [Function.comp_apply, hstep]
  refine cutFields_intercalate (fun field hm => not_mem_segmentFields hl hf field hm _ (by decide)) ?_ ?_
  · rw [hs.fields]; exact List.cons_ne_nil _ _
  · rw [hs.fields]; exact Nat.le_refl 9

/-- The payload of an answer that fits. -/
theorem payload_transferText (hl : PathTexts data path) (hfit : (transferText data path).length ≤ maxPacketSize - 2) :
    (responseHeader (transferText data path ++ [packetTerm])).payload = transferBody data path ∧
      (transferBody data path).length + 1 ≤ maxPacketSize := by
  have hsize : maxPacketSize = 32768 := rfl
  rw [transferText_eq] at hfit ⊢
  have hlen : (transferBody data path).length + 1 ≤ maxPacketSize := by
    rw [List.length_append] at hfit
    omega
  rw [responseHeader_eq (by decide) (by omega) (stripNewline_transferBody hl)]
  exact ⟨rfl, hlen⟩

theorem transferView_eq (hminutes : ∀ m ∈ path.segmentMinutes, IsInt32 m) (hl : PathLabels data path)
    (hfit : (transferText data path).length ≤ maxPacketSize - 2) :
    transferView (transferText data path ++ [packetTerm]) = some (pathView data path) := by
  obtain ⟨hpayload, hlen⟩ := payload_transferText hl.texts hfit
  unfold transferView
  rw [hpayload, transferParts_body hl.texts hlen, Option.map_some, pathNodes_names hl hlen,
    stepsFields_steps hminutes hl.texts hlen]
  rfl

/-- A response that ends its line has the whole text. -/
theorem fits_of_getLast? (hp : PathRecord data.graph path) (hl : PathTexts data path)
    (h : (transferResponse data path maxPacketSize).getLast? = some packetTerm) :
    (transferText data path).length ≤ maxPacketSize - 2 := by
  by_contra hfit
  rw [transferResponse_eq hp, if_neg hfit] at h
  have hm := List.mem_of_mem_take (List.mem_of_getLast? h)
  rw [transferText_eq, List.mem_append] at hm
  exact hm.elim (header_spec (by decide) .ok).1 (not_mem_transferBody hl (by decide))

theorem exists_requestedPath {mem : Bool} {body : Str} {size : Nat}
    (h : (handleTransfer mem data body size).code = .ok) : ∃ path, requestedPath mem data body = some path := by
  unfold handleTransfer at h
  unfold requestedPath
  by_cases hb : strIsBlank body = true
  · rw [if_pos hb] at h
    cases h
  · rw [if_neg hb] at h ⊢
    cases hcut : cutAt itemSep (safeStrcpy 256 body) with
    | none =>
      rw [hcut] at h
      cases h
    | some texts =>
      rw [hcut] at h
      dsimp only at h ⊢
      cases hpath : transferPath mem data texts.1 texts.2 with
      | none =>
        rw [hpath] at h
        cases h
      | some path => exact ⟨path, rfl⟩

/-- The client recovers the names, the count, the time and the fields of each
segment from every answer that fits, where the labels have no separators. -/
theorem transferReply_decode (mem : Bool) (data : AppData D) (body : Str) (hw : IntWeights data.graph)
    (hok : (handleTransfer mem data body maxPacketSize).code = .ok)
    (hend : (handleTransfer mem data body maxPacketSize).response.getLast? = some packetTerm) :
    ∃ path, requestedPath mem data body = some path ∧ (pathNames data path).length = path.count ∧
      (pathSegments data path).length = path.count - 1 ∧
      (PathLabels data path →
        transferView (handleTransfer mem data body maxPacketSize).response = some (pathView data path)) := by
  obtain ⟨path, hpath⟩ := exists_requestedPath hok
  have hshape := requestedPath_shape hpath
  have hp := hshape.record
  have hminutes : ∀ m ∈ path.segmentMinutes, IsInt32 m := fun m hm => by
    rcases hshape.minutes m hm with rfl | ⟨i, e, he, rfl⟩
    · exact ⟨by decide, by decide⟩
    · exact hw i e he
  rw [handleTransfer_some hpath] at hend ⊢
  refine ⟨path, hpath, ?_, length_pathSegments hp, fun hl => ?_⟩
  · exact (List.length_map _).trans (length_nodesOnPath hp)
  · have hfit := fits_of_getLast? hp hl.texts hend
    rw [transferResponse_eq hp, if_pos hfit]
    exact transferView_eq hminutes hl hfit

/-- The way from A to B, five minutes by bus 7. -/
def twoNodeData : AppData ℚ := { (appDataInit : AppData ℚ) with graph := runCalls twoNodeCalls }

theorem transferReply_decode_twoNode : ∃ path,
    transferView (handleTransfer true twoNodeData (utf8 "A:B") maxPacketSize).response =
      some (pathView twoNodeData path) := by
  have hw : IntWeights twoNodeData.graph := by
    intro u e he
    have hall : ∀ u < 2, ∀ e ∈ twoNodeData.graph.edgesAt u, -2 ^ 31 ≤ e.weightMin ∧ e.weightMin < 2 ^ 31 := by
      decide +kernel
    by_cases hu : u < 2
    · exact hall u hu e he
    · rw [edgesAt_of_le (show twoNodeData.graph.nodeCount ≤ u by
        rw [show twoNodeData.graph.nodeCount = 2 by decide +kernel]; omega)] at he
      cases he
  have hlabels : ∀ path ∈ requestedPath true twoNodeData (utf8 "A:B"), PathLabels twoNodeData path := by
    decide +kernel
  obtain ⟨path, hpath, -, -, hview⟩ := transferReply_decode true twoNodeData (utf8 "A:B") hw (by decide +kernel)
    (by decide +kernel)
  exact ⟨path, hview (hlabels path hpath)⟩

end Transit
