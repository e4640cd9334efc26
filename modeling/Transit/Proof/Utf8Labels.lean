import Transit.Proof.RouteLabels
import Transit.Proof.RouteViews
import Transit.Proof.StopRoutes
import Transit.Proof.Utf8Store

/-!
# The labels of a store of UTF-8

A label is put together from texts of the store and cut to 127 bytes, the route
list of a stop from labels, minutes and notes, cut to 4095.

* `utf8_routeDisplayLabel_iff`: a label is `Utf8` exactly when its cuts fall
  between characters.
* `utf8_appendRoutesForStop_iff`: so is the route list of a stop, where the
  labels are.
-/

namespace Transit

open Framework

variable {D : Type} {data : AppData D}

/-! ## Numbers -/

theorem textProperty_utf8 : TextProperty Utf8 where
  toJoins := joins_utf8
  ascii s h := utf8_of_ascii fun b hb => by
    have hsmall := List.all_eq_true.mp h b hb
    rw [Bool.and_eq_true, decide_eq_true_eq] at hsmall
    exact hsmall.1

theorem utf8_fmtInt (n : Int) : Utf8 (fmtInt n) := textProperty_utf8.fmtInt n

/-! ## Records -/

/-- The texts of the records that answers are made from. -/
structure Utf8Records (data : AppData D) : Prop where
  stops : ∀ stop ∈ data.stops, Utf8Texts stop.texts
  routes : ∀ route ∈ data.routes, Utf8Texts route.texts
  stations : ∀ cur ∈ data.stations, Utf8Texts cur.texts
  facilities : ∀ cur ∈ data.facilities, Utf8Texts cur.texts
  arrivals : ∀ arrival ∈ data.arrivals, Utf8Texts arrival.texts
  crowdings : ∀ crowding ∈ data.crowdings, Utf8Texts crowding.texts
  nodes : ∀ node ∈ data.graph.nodes, Utf8Texts node.texts

theorem Utf8Texts.records (h : Utf8Texts data.texts) : Utf8Records data := by
  simp only [AppData.texts, AppData.recordTexts, utf8Texts_append, utf8Texts_flatMap] at h
  obtain ⟨⟨⟨⟨⟨⟨⟨hstops, hroutes⟩, hstations⟩, -⟩, hfacilities⟩, harrivals⟩, hcrowdings⟩, hnodes⟩ := h
  exact ⟨hstops, hroutes, hstations, hfacilities, harrivals, hcrowdings, hnodes⟩

theorem Utf8Records.nodeTexts (h : Utf8Records data) : NodeTexts Utf8 data where
  stops stop hstop := by
    have htexts := h.stops stop hstop
    simp only [StopNode.texts, utf8Texts_cons] at htexts
    exact ⟨htexts.1, htexts.2.1⟩
  stations cur hcur := by
    have htexts := h.stations cur hcur
    simp only [StationNode.texts, utf8Texts_cons] at htexts
    exact ⟨htexts.1, htexts.2.1⟩
  kinds := ⟨utf8_literal _, utf8_literal _⟩

/-! ## Labels -/

/-- The texts that are cut on the way to a display name, with the sizes of their
buffers; a name without its direction is too short to be cut. -/
def nameCuts (route : RouteNode) : List (Nat × Str) :=
  if routeNameIsInactive (shownName route) || (strstr (shownName route) (utf8 "방면")).isNone then []
  else
    match routeNumberFromRouteId route.routeNo 32 with
    | some number =>
      [(32, routeNumberFromRouteId.skipZeros (route.routeNo.val.drop 6)),
        (maxRouteLen, number ++ utf8 "번 - " ++ shownName route)]
    | none => [(maxRouteLen, utf8 "노선ID " ++ route.routeNo.val ++ utf8 " - " ++ shownName route)]

/-- The texts that are cut on the way to a label. -/
def labelCuts (data : AppData D) (route : RouteNode) : List (Nat × Str) :=
  nameCuts route ++
    match routeDisplayName route maxRouteLen with
    | none => []
    | some base =>
      let destination := findNodeNameById data route.endStopId
      if (strstr base (utf8 "방면")).isNone && (!strIsBlank destination && destination != route.endStopId.val &&
          (strstr destination (utf8 "정류장명 미상")).isNone) then
        [(maxRouteLen, base ++ utf8 " - " ++ destination ++ utf8 " 방면")]
      else []

/-- No cut falls within a character. -/
def CutsAtChar (cuts : List (Nat × Str)) : Prop := ∀ c ∈ cuts, AtChar (c.2.drop (c.1 - 1))

theorem utf8_skipZeros {s : Str} (h : Utf8 s) : Utf8 (routeNumberFromRouteId.skipZeros s) := by
  fun_induction routeNumberFromRouteId.skipZeros s with
  | case1 d rest ih => exact ih ((utf8_ascii_cons (by decide)).mp h)
  | case2 => exact h
  | case3 => exact h

theorem routeNumberFromRouteId_some {routeNo number : Str} {n : Nat} (hno : Utf8 routeNo)
    (h : routeNumberFromRouteId routeNo n = some number) :
    number = snprintf n (routeNumberFromRouteId.skipZeros (routeNo.drop 6)) ∧
      Utf8 (routeNumberFromRouteId.skipZeros (routeNo.drop 6)) := by
  have harea : ∀ area ∈ [utf8 "285000", utf8 "288000", utf8 "298000"], area <+: routeNo →
      Utf8 (routeNo.drop 6) := by
    intro area harea hpre
    obtain ⟨rest, rfl⟩ := hpre
    have hlen : ∀ a ∈ [utf8 "285000", utf8 "288000", utf8 "298000"], a.length = 6 ∧ Utf8 a := by
      simp only [List.forall_mem_cons]
      exact ⟨⟨by decide, utf8_literal _⟩, ⟨by decide, utf8_literal _⟩, ⟨by decide, utf8_literal _⟩,
        List.forall_mem_nil _⟩
    obtain ⟨hsix, hutf⟩ := hlen area harea
    rw [hutf.append_iff] at hno
    rwa [List.drop_left' hsix]
  unfold routeNumberFromRouteId at h
  split at h
  · rename_i hpre
    dsimp only at h
    split at h
    · cases h
    · cases h
      refine ⟨rfl, utf8_skipZeros ?_⟩
      simp only [Bool.or_eq_true, List.isPrefixOf_iff_prefix] at hpre
      rcases hpre with (hpre | hpre) | hpre
      · exact harea _ (by simp) hpre
      · exact harea _ (by simp) hpre
      · exact harea _ (by simp) hpre
  · cases h

theorem utf8_routeNumberToken (p : Str) : Utf8 (routeNumberToken p).1 := by
  refine textProperty_utf8.ascii _ (List.all_eq_true.mpr fun b hb => ?_)
  have hb' := List.mem_takeWhile_imp (List.mem_of_mem_take hb)
  rw [Bool.or_eq_true, beq_iff_eq] at hb'
  rcases hb' with hdigit | rfl
  · exact ascii_of_isdigit hdigit
  · decide

/-- A name without its direction. -/
theorem utf8_shortName {labelPrefix : Str} (hpre : labelPrefix ∈ labelPrefixes ∨ labelPrefix = []) (p : Str)
    (beon : Bool) :
    Utf8 (snprintf maxRouteLen (labelPrefix ++ (routeNumberToken p).1 ++ if beon then utf8 "번" else [])) := by
  have hword : Utf8 labelPrefix ∧ labelPrefix.length ≤ 7 := by
    rcases hpre with hpre | rfl
    · have hall : ∀ l ∈ labelPrefixes, Utf8 l ∧ l.length ≤ 7 := by
        simp only [labelPrefixes, List.forall_mem_cons]
        exact ⟨⟨utf8_literal _, by decide⟩, ⟨utf8_literal _, by decide⟩, ⟨utf8_literal _, by decide⟩,
          List.forall_mem_nil _⟩
      exact hall _ hpre
    · exact ⟨utf8_nil, by decide⟩
  have hbeon : Utf8 (if beon then utf8 "번" else []) ∧ (if beon then utf8 "번" else []).length ≤ 3 := by
    cases beon with
    | false => exact ⟨utf8_nil, by decide⟩
    | true => exact ⟨utf8_literal _, by decide⟩
  have htoken : (routeNumberToken p).1.length ≤ 31 := List.length_take_le ..
  have hsize : maxRouteLen = 128 := rfl
  rw [snprintf_of_le (by simp only [List.length_append]; omega)]
  exact (hword.1.append (utf8_routeNumberToken p)).append hbeon.1

theorem utf8_copyPrefixedRouteNumber {name pfx labelPrefix out : Str} {beon : Bool} (hpre : labelPrefix ∈ labelPrefixes)
    (h : copyPrefixedRouteNumber name pfx labelPrefix beon maxRouteLen = some out) : Utf8 out := by
  obtain ⟨p, rfl⟩ := copyPrefixedRouteNumber_some h
  exact utf8_shortName (.inl hpre) p beon

theorem utf8_extractNumericRouteNumber {name out : Str} (h : extractNumericRouteNumber name maxRouteLen = some out) :
    Utf8 out := by
  obtain ⟨p, -, rfl⟩ := extractNumericRouteNumber_some h
  exact utf8_shortName (.inr rfl) p true

theorem utf8_routeDisplayName_iff {route : RouteNode} (hno : Utf8 route.routeNo.val) (hname : Utf8 route.routeName.val)
    {base : Str} (h : routeDisplayName route maxRouteLen = some base) : Utf8 base ↔ CutsAtChar (nameCuts route) := by
  have hshown : Utf8 (shownName route) := by
    unfold shownName
    split <;> assumption
  have hdef : (if strIsBlank route.routeName then route.routeNo.val else route.routeName.val) = shownName route := rfl
  unfold CutsAtChar nameCuts
  unfold routeDisplayName at h
  dsimp only at h
  rw [hdef] at h
  by_cases hinactive : routeNameIsInactive (shownName route) = true
  · rw [if_pos hinactive] at h
    cases h
  rw [if_neg hinactive] at h
  cases hbound : strstr (shownName route) (utf8 "방면") with
  | some rest =>
    rw [hbound, Option.isSome_some, if_pos rfl] at h
    rw [Option.isNone_some, Bool.or_false, if_neg hinactive]
    cases hnumber : routeNumberFromRouteId route.routeNo 32 with
    | some number =>
      rw [hnumber] at h
      cases h
      obtain ⟨hcut, hsuffix⟩ := routeNumberFromRouteId_some hno hnumber
      have hlen : number.length ≤ maxRouteLen - 1 := by
        rw [hcut]
        exact Nat.le_trans (List.length_take_le ..) (by decide)
      dsimp only
      rw [List.forall_mem_cons, List.forall_mem_singleton, ← utf8_take_iff hsuffix, List.append_assoc]
      dsimp only
      rw [show List.take (32 - 1) (routeNumberFromRouteId.skipZeros (route.routeNo.val.drop 6)) = number from hcut.symm]
      exact utf8_take_append_iff hlen ((utf8_literal _).append hshown)
    | none =>
      rw [hnumber] at h
      cases h
      rw [List.forall_mem_singleton]
      exact utf8_take_iff ((((utf8_literal _).append hno).append (utf8_literal _)).append hshown) _
  | none =>
    rw [hbound, Option.isSome_none, if_neg Bool.false_ne_true] at h
    rw [Option.isNone_none, Bool.or_true, if_pos rfl]
    refine iff_of_true ?_ (List.forall_mem_nil _)
    simp only [Option.or_eq_some_iff] at h
    rcases h with h | ⟨-, h | ⟨-, h | ⟨-, h | ⟨-, h⟩⟩⟩⟩
    · exact utf8_copyPrefixedRouteNumber (by decide) h
    · exact utf8_copyPrefixedRouteNumber (by decide) h
    · exact utf8_copyPrefixedRouteNumber (by decide) h
    · exact utf8_copyPrefixedRouteNumber (by decide) h
    · exact utf8_extractNumericRouteNumber h

theorem utf8_routeDisplayLabel_iff (hrecords : Utf8Records data) {route : RouteNode} (hroute : route ∈ data.routes)
    {label : Str} (h : routeDisplayLabel data route maxRouteLen = some label) :
    Utf8 label ↔ CutsAtChar (labelCuts data route) := by
  have htexts := hrecords.routes route hroute
  have hno : Utf8 route.routeNo.val := htexts _ (by simp [RouteNode.texts])
  have hname : Utf8 route.routeName.val := htexts _ (by simp [RouteNode.texts])
  have hdestination : Utf8 (findNodeNameById data route.endStopId) :=
    hrecords.nodeTexts.findNodeNameById (htexts _ (by simp [RouteNode.texts]))
  unfold routeDisplayLabel at h
  unfold labelCuts
  cases hbase : routeDisplayName route maxRouteLen with
  | none =>
    rw [hbase] at h
    cases h
  | some base =>
    have hiff := utf8_routeDisplayName_iff hno hname hbase
    have hlen : base.length ≤ maxRouteLen - 1 := by
      obtain ⟨text, -, rfl⟩ := nameText_of_routeDisplayName hbase
      exact List.length_take_le ..
    rw [hbase] at h
    dsimp only at h ⊢
    generalize findNodeNameById data route.endStopId = destination at h hdestination ⊢
    unfold CutsAtChar at hiff ⊢
    rw [List.forall_mem_append, ← hiff]
    cases hbound : strstr base (utf8 "방면") with
    | some rest =>
      rw [hbound, Option.isSome_some, if_pos rfl] at h
      cases h
      rw [Option.isNone_some, Bool.false_and, if_neg Bool.false_ne_true, safeStrcpy, snprintf_of_le hlen]
      exact (and_iff_left (List.forall_mem_nil _)).symm
    | none =>
      rw [hbound, Option.isSome_none, if_neg Bool.false_ne_true] at h
      rw [Option.isNone_none, Bool.true_and]
      split at h
      · rename_i hshown
        cases h
        rw [if_pos hshown, List.forall_mem_singleton, List.append_assoc, List.append_assoc]
        exact utf8_take_append_iff hlen ((utf8_literal _).append (hdestination.append (utf8_literal _)))
      · rename_i hhidden
        cases h
        rw [if_neg hhidden, safeStrcpy, snprintf_of_le hlen]
        exact (and_iff_left (List.forall_mem_nil _)).symm

theorem nameCuts_none {route : RouteNode} (h : routeDisplayName route maxRouteLen = none) : nameCuts route = [] := by
  unfold nameCuts
  unfold routeDisplayName at h
  change (if routeNameIsInactive (shownName route) then _ else
    if (strstr (shownName route) (utf8 "방면")).isSome then _ else _) = none at h
  by_cases hinactive : routeNameIsInactive (shownName route) = true
  · rw [hinactive, Bool.true_or, if_pos rfl]
  rw [if_neg hinactive] at h
  cases hbound : strstr (shownName route) (utf8 "방면") with
  | none => rw [Option.isNone_none, Bool.or_true, if_pos rfl]
  | some rest =>
    rw [hbound, Option.isSome_some, if_pos rfl] at h
    split at h <;> cases h

/-- A route that is not shown has nothing to cut. -/
theorem labelCuts_none {route : RouteNode} (h : routeDisplayLabel data route maxRouteLen = none) :
    labelCuts data route = [] := by
  have hbase : routeDisplayName route maxRouteLen = none := by
    unfold routeDisplayLabel at h
    cases hbase : routeDisplayName route maxRouteLen with
    | none => rfl
    | some base =>
      rw [hbase] at h
      dsimp only at h
      split at h
      · cases h
      · split at h <;> cases h
  rw [labelCuts, nameCuts_none hbase, hbase, List.nil_append]

/-- All labels of the store. -/
def Utf8Labels (data : AppData D) : Prop :=
  ∀ route ∈ data.routes, ∀ label, routeDisplayLabel data route maxRouteLen = some label → Utf8 label

theorem utf8Labels_iff (hrecords : Utf8Records data) :
    Utf8Labels data ↔ ∀ route ∈ data.routes, CutsAtChar (labelCuts data route) := by
  refine forall₂_congr fun route hroute => ?_
  cases hlabel : routeDisplayLabel data route maxRouteLen with
  | none =>
    rw [labelCuts_none hlabel]
    exact iff_of_true (fun label h => absurd h (Option.some_ne_none label).symm) (List.forall_mem_nil _)
  | some label =>
    rw [← utf8_routeDisplayLabel_iff hrecords hroute hlabel]
    simp only [Option.some.injEq, forall_eq']

/-! ## Route lists -/

/-- The pieces that are written of the routes of a stop, one behind the other. -/
def stopPieces (data : AppData D) (stop : StopNode D) : List (Piece Byte) :=
  match newEntries [] (metEntries data stop) with
  | [] => []
  | e :: es => e.pieces ++ es.flatMap fun e => .whole [44] :: e.pieces

theorem foldl_appendEntry_pieces {routes : Str} (hne : routes ≠ []) (h : routes.length < stopRoutesTextSize)
    (es : List RouteEntry) : es.foldl (appendEntry stopRoutesTextSize) routes =
      (es.flatMap fun e => .whole [44] :: e.pieces).foldl (Piece.put 4095) routes := by
  induction es generalizing routes with
  | nil => rfl
  | cons e es ih =>
    have hentry : appendEntry stopRoutesTextSize routes e =
        (.whole [44] :: e.pieces).foldl (Piece.put 4095) routes := by
      rw [appendEntry_eq h, if_pos hne]
      rfl
    have hnext : appendEntry stopRoutesTextSize routes e ≠ [] := fun hnil =>
      hne (List.prefix_nil.mp (hnil ▸ prefix_foldl_appendEntry h [e]))
    rw [List.foldl_cons, List.flatMap_cons, List.foldl_append, ← hentry]
    exact ih hnext (length_appendRouteText_lt h ..)

theorem utf8_pieces (hrecords : Utf8Records data) (hlabels : Utf8Labels data) {stopId : Str} {e : RouteEntry}
    (he : e ∈ entriesThrough data stopId) : ∀ p ∈ e.pieces, Utf8 p.text := by
  obtain ⟨route, hroute, hentry⟩ := List.mem_filterMap.mp he
  obtain ⟨label, hlabel, rfl⟩ := Option.map_eq_some_iff.mp hentry
  have hutf := hlabels route (List.mem_filter.mp hroute).1 label hlabel
  have harrival : ∀ arrival ∈ findArrival data stopId route.routeNo (utf8 "morning"), Utf8 arrival.status.val :=
    fun arrival h => hrecords.arrivals arrival (List.mem_of_find?_eq_some h) _ (by simp [ArrivalNode.texts])
  have hcrowding : ∀ crowding ∈ findCrowding data stopId route.routeNo (utf8 "morning"),
      Utf8 crowding.crowdingLevel.val :=
    fun crowding h => hrecords.crowdings crowding (List.mem_of_find?_eq_some h) _ (by simp [CrowdingNode.texts])
  have hlabelPiece : Utf8 (label ++ [40]) := hutf.append (utf8_singleton (by decide))
  have hend : Utf8 [41] := utf8_singleton (by decide)
  unfold RouteEntry.pieces
  dsimp only
  generalize findArrival data stopId route.routeNo (utf8 "morning") = arrival at harrival
  generalize findCrowding data stopId route.routeNo (utf8 "morning") = crowding at hcrowding
  have hnone : Utf8 (utf8 "도착정보없음") := utf8_literal _
  have htime : ∀ a ∈ arrival, Utf8 (fmtInt a.arrivalMinutes ++ utf8 "분/" ++ a.status.val) := fun a ha =>
    ((utf8_fmtInt _).append (utf8_literal _)).append (harrival a ha)
  have hnote : ∀ c ∈ crowding, Utf8 ([47] ++ c.crowdingLevel.val) := fun c hc =>
    (utf8_singleton (by decide)).append (hcrowding c hc)
  have hall : ∀ pieces : List (Piece Byte), (∀ p ∈ pieces, Utf8 p.text) →
      ∀ p ∈ pieces ++ [.whole [41]], Utf8 p.text := fun pieces hpieces =>
    List.forall_mem_append.mpr ⟨hpieces, List.forall_mem_singleton.mpr hend⟩
  cases arrival with
  | none =>
    cases crowding with
    | none => exact List.forall_mem_singleton.mpr hutf
    | some c =>
      refine hall [.cut (label ++ [40]), .whole (utf8 "도착정보없음"), .cut ([47] ++ c.crowdingLevel.val)] ?_
      simp only [List.forall_mem_cons]
      exact ⟨hlabelPiece, hnone, hnote c rfl, List.forall_mem_nil _⟩
  | some a =>
    cases crowding with
    | none =>
      refine hall [.cut (label ++ [40]), .cut (fmtInt a.arrivalMinutes ++ utf8 "분/" ++ a.status.val)] ?_
      simp only [List.forall_mem_cons]
      exact ⟨hlabelPiece, htime a rfl, List.forall_mem_nil _⟩
    | some c =>
      refine hall [.cut (label ++ [40]), .cut (fmtInt a.arrivalMinutes ++ utf8 "분/" ++ a.status.val),
        .cut ([47] ++ c.crowdingLevel.val)] ?_
      simp only [List.forall_mem_cons]
      exact ⟨hlabelPiece, htime a rfl, hnote c rfl, List.forall_mem_nil _⟩

theorem utf8_stopPieces (hrecords : Utf8Records data) (hlabels : Utf8Labels data) (stop : StopNode D) :
    ∀ p ∈ stopPieces data stop, Utf8 p.text := by
  have hmet : ∀ e ∈ newEntries [] (metEntries data stop), ∀ p ∈ e.pieces, Utf8 p.text := by
    intro e he
    obtain ⟨stopId, he⟩ := mem_metEntries ((newEntries_sublist _ _).subset he)
    exact utf8_pieces hrecords hlabels he
  unfold stopPieces
  cases hnew : newEntries [] (metEntries data stop) with
  | nil => exact List.forall_mem_nil _
  | cons e es =>
    rw [hnew, List.forall_mem_cons] at hmet
    rw [List.forall_mem_append, List.forall_mem_flatMap]
    refine ⟨hmet.1, fun e he => ?_⟩
    rw [List.forall_mem_cons]
    exact ⟨utf8_singleton (by decide), hmet.2 e he⟩

/-- The route list of a stop. -/
theorem utf8_appendRoutesForStop_iff (hrecords : Utf8Records data) (hlabels : Utf8Labels data) (stop : StopNode D) :
    Utf8 (appendRoutesForStop data stop stopRoutesTextSize) ↔ Piece.CutsClean 4095 0 (stopPieces data stop) := by
  have hpieces := @utf8_foldl_put_iff 4095 _ (utf8_stopPieces hrecords hlabels stop) []
  rw [iff_comm, List.length_nil, and_iff_right utf8_nil] at hpieces
  rw [appendRoutesForStop_new, hpieces]
  unfold stopPieces
  cases hnew : newEntries [] (metEntries data stop) with
  | nil => exact iff_of_true (utf8_literal _) utf8_nil
  | cons e es =>
    obtain ⟨stopId, he⟩ := mem_metEntries ((newEntries_sublist _ _).subset
      (hnew ▸ List.mem_cons_self .. : e ∈ newEntries [] (metEntries data stop)))
    obtain ⟨htwo, hlen⟩ := label_of_mem he
    have hfirst : appendEntry stopRoutesTextSize [] e = e.pieces.foldl (Piece.put 4095) [] :=
      appendEntry_eq (by decide) e
    rw [if_neg (List.cons_ne_nil _ _), List.foldl_cons, List.foldl_append, ← hfirst,
      foldl_appendEntry_pieces (appendEntry_ne_nil htwo hlen) (length_appendRouteText_lt (by decide) ..)]

end Transit
