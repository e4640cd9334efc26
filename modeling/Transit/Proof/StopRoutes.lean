import Transit.Proof.BusReply
import Transit.Proof.Searching

/-!
# The routes of a stop

`append_routes_for_stop` writes the routes through a stop behind one another,
each once, with its arrival time and crowding. The routes written so far are
kept in a text of 4096 bytes, and the list is another, into which a label is
put as a whole or cut, depending on what follows it.

* `stopEntries`: the entries in the order in which they are met.
* `appendRoutesForStop_eq`: the text is that of the entries that are `kept`, as
  far as they are `written`.
-/

namespace Transit

open Framework

variable {D : Type} {data : AppData D}

/-- What is written of a route at a stop. -/
structure RouteEntry where
  label : Str
  arrival : Option ArrivalNode
  crowding : Option CrowdingNode

/-- The pieces of its text. -/
def RouteEntry.pieces (e : RouteEntry) : List (Piece Byte) :=
  if e.arrival.isSome || e.crowding.isSome then
    [.cut (e.label ++ [40]),
      match e.arrival with
      | some arrival => .cut (fmtInt arrival.arrivalMinutes ++ utf8 "분/" ++ arrival.status.val)
      | none => .whole (utf8 "도착정보없음")] ++
    (match e.crowding with
      | some crowding => [.cut ([47] ++ crowding.crowdingLevel.val)]
      | none => []) ++
    [.whole [41]]
  else [.whole e.label]

/-- The entries of the routes through a stop id. -/
def entriesThrough (data : AppData D) (stopId : Str) : List RouteEntry :=
  (data.routes.filter (routeHasStop · stopId)).filterMap fun route =>
    (routeDisplayLabel data route maxRouteLen).map fun label =>
      ⟨label, findArrival data stopId route.routeNo (utf8 "morning"),
        findCrowding data stopId route.routeNo (utf8 "morning")⟩

/-- The other ids that name the stop. -/
def aliasIds (data : AppData D) (stop : StopNode D) : List Str :=
  (data.stops.filter fun other =>
    other.stopId.val != stop.stopId.val && stopIdsAliasMatch stop.stopId other.stopId).map (·.stopId.val)

/-- The entries of a stop as the loops meet them, each label once. -/
def stopEntries (data : AppData D) (stop : StopNode D) : List RouteEntry :=
  (if entriesThrough data stop.stopId = [] then (aliasIds data stop).flatMap (entriesThrough data)
    else entriesThrough data stop.stopId).eraseDupsBy (·.label == ·.label)

/-- The entries for whose labels there is room among the keys. -/
def keptEntries : Nat → List RouteEntry → List RouteEntry
  | _, [] => []
  | room, e :: es => if e.label.length + 2 ≤ room then e :: keptEntries (room - (e.label.length + 2)) es else []

/-- The text of an entry where there is this much room. -/
def RouteEntry.text (e : RouteEntry) (room : Nat) : Str := e.pieces.foldl (Piece.put room) []

/-- The texts of entries where there is this much room, for the separators too. -/
def writtenEntries : Nat → List RouteEntry → List Str
  | _, [] => []
  | 0, _ :: _ => []
  | room + 1, e :: es => e.text room :: writtenEntries (room - (e.text room).length) es

/-! ## The loops -/

/-- One round of the loops. -/
def addEntry (size keysSize : Nat) (st : RouteTexts × Nat) (e : RouteEntry) : RouteTexts × Nat :=
  if routeKeyExists st.1.routeKeys e.label then st
  else
    match strAppendf st.1.routeKeys keysSize ([124] ++ e.label ++ [124]) with
    | (keys, false) => ({ st.1 with routeKeys := keys }, st.2)
    | (keys, true) =>
      ({ routes := appendRouteText st.1.routes size e.label e.arrival e.crowding, routeKeys := keys }, st.2 + 1)

/-- The entries that the loops write, as the keys decide. -/
def newEntries : Str → List RouteEntry → List RouteEntry
  | _, [] => []
  | keys, e :: es =>
    if routeKeyExists keys e.label then newEntries keys es
    else
      match strAppendf keys stopRoutesTextSize ([124] ++ e.label ++ [124]) with
      | (keys, false) => newEntries keys es
      | (keys, true) => e :: newEntries keys es

/-- The text of an entry behind others. -/
def appendEntry (size : Nat) (routes : Str) (e : RouteEntry) : Str :=
  appendRouteText routes size e.label e.arrival e.crowding

/-- The entries met through the stop's own id, or else through those that alias it. -/
def metEntries (data : AppData D) (stop : StopNode D) : List RouteEntry :=
  if entriesThrough data stop.stopId = [] then (aliasIds data stop).flatMap (entriesThrough data)
  else entriesThrough data stop.stopId

theorem appendRoutesForStopId_eq (stopId : Str) (size keysSize : Nat) (st : RouteTexts × Nat) :
    appendRoutesForStopId data stopId size keysSize st =
      (entriesThrough data stopId).foldl (addEntry size keysSize) st := by
  unfold appendRoutesForStopId entriesThrough
  rw [List.foldl_filterMap, List.foldl_filter]
  congr 1
  funext ⟨texts, count⟩ route
  dsimp only
  by_cases hstop : routeHasStop route stopId = true
  · rw [if_pos hstop, if_pos hstop]
    unfold appendRouteItem
    cases hlabel : routeDisplayLabel data route maxRouteLen with
    | none => rfl
    | some label =>
      dsimp only [Option.map_some]
      unfold addEntry
      by_cases hkey : routeKeyExists texts.routeKeys label = true
      · rw [if_pos hkey, if_pos hkey]
      · rw [if_neg hkey, if_neg hkey]
        dsimp only
        cases hadd : strAppendf texts.routeKeys keysSize ([124] ++ label ++ [124]) with
        | mk keys added => cases added <;> rfl
  · rw [if_neg hstop, if_neg hstop]

theorem appendRoutesForAliasStopIds_eq (stop : StopNode D) (size keysSize : Nat) (st : RouteTexts × Nat) :
    appendRoutesForAliasStopIds data stop size keysSize st =
      ((aliasIds data stop).flatMap (entriesThrough data)).foldl (addEntry size keysSize) st := by
  unfold appendRoutesForAliasStopIds aliasIds
  rw [List.foldl_flatMap, List.foldl_map, List.foldl_filter]
  congr 1
  funext st other
  rw [← appendRoutesForStopId_eq]
  by_cases hsame : (other.stopId.val == stop.stopId.val) = true
  · rw [if_pos hsame, bne, hsame, Bool.not_true, Bool.false_and, if_neg Bool.false_ne_true]
  · rw [if_neg hsame, bne, Bool.eq_false_iff.mpr hsame, Bool.not_false, Bool.true_and]

/-! ## The keys -/

/-- A label as it stands among the keys. -/
structure KeyLabel (label : Str) : Prop where
  free : 124 ∉ label
  two_le : 2 ≤ label.length
  length : label.length ≤ 127

theorem KeyLabel.nonempty {label : Str} (h : KeyLabel label) : label ≠ [] :=
  List.ne_nil_of_length_pos (Nat.lt_of_lt_of_le Nat.two_pos h.two_le)

/-- The keys of the entries kept. -/
structure KeysWritten (kept : List RouteEntry) (keys : Str) : Prop where
  text : keys = fences 124 (kept.map (·.label))
  room : keys.length ≤ 4095
  labels : ∀ e ∈ kept, KeyLabel e.label

theorem KeysWritten.exists_eq {kept : List RouteEntry} {keys : Str} {e : RouteEntry} (h : KeysWritten kept keys)
    (he : KeyLabel e.label) : routeKeyExists keys e.label = kept.any (e.label == ·.label) := by
  have hkept : ∀ k ∈ kept.map (·.label), 124 ∉ k ∧ k ≠ [] :=
    List.forall_mem_map.mpr fun k hk => ⟨(h.labels k hk).free, (h.labels k hk).nonempty⟩
  have hshort : keyFound e.label = fun k => e.label == k := by
    funext k
    exact if_pos (Nat.le_trans he.length (by decide))
  rw [h.text, routeKeyExists_fences hkept he.free he.nonempty, hshort, List.any_map]
  rfl

theorem fenced_eq (label : Str) : [124] ++ label ++ [124] = fenced (124 : Byte) label := by
  simp [fenced]

theorem length_fenced (label : Str) : (fenced (124 : Byte) label).length = label.length + 2 := by
  simp [fenced]

theorem foldl_addEntry (size : Nat) (es : List RouteEntry) (routes keys : Str) (count : Nat) :
    (es.foldl (addEntry size stopRoutesTextSize) (⟨routes, keys⟩, count)).1.routes =
        (newEntries keys es).foldl (appendEntry size) routes ∧
      (es.foldl (addEntry size stopRoutesTextSize) (⟨routes, keys⟩, count)).2 =
        count + (newEntries keys es).length := by
  induction es generalizing routes keys count with
  | nil => exact ⟨rfl, rfl⟩
  | cons e es ih =>
    rw [List.foldl_cons, newEntries]
    unfold addEntry
    dsimp only
    by_cases hkey : routeKeyExists keys e.label = true
    · rw [if_pos hkey, if_pos hkey]
      exact ih routes keys count
    · rw [if_neg hkey, if_neg hkey]
      cases hadd : strAppendf keys stopRoutesTextSize ([124] ++ e.label ++ [124]) with
      | mk keys added =>
        cases added with
        | false => exact ih routes keys count
        | true =>
          obtain ⟨hroutes, hcount⟩ := ih (appendEntry size routes e) keys (count + 1)
          dsimp only
          rw [List.foldl_cons, List.length_cons]
          exact ⟨hroutes, by rw [← Nat.add_assoc, Nat.add_right_comm]; exact hcount⟩

/-- Keys that fill their text take no entry. -/
theorem newEntries_full {keys : Str} (h : keys.length = 4095) (es : List RouteEntry) : newEntries keys es = [] := by
  have hsize : stopRoutesTextSize = 4096 := rfl
  induction es with
  | nil => rfl
  | cons e es ih =>
    have hfull : strAppendf keys stopRoutesTextSize ([124] ++ e.label ++ [124]) = (keys, false) := by
      unfold strAppendf snprintf
      rw [if_neg (by omega), h, fenced_eq, length_fenced, decide_eq_false (by omega : ¬ _ < stopRoutesTextSize - 4095)]
      exact Prod.ext (List.append_nil _) rfl
    rw [newEntries, hfull]
    by_cases hkey : routeKeyExists keys e.label = true
    · rw [if_pos hkey]
      exact ih
    · rw [if_neg hkey]
      exact ih

theorem newEntries_sublist (keys : Str) (es : List RouteEntry) : (newEntries keys es).Sublist es := by
  induction es generalizing keys with
  | nil => exact .slnil
  | cons e es ih =>
    rw [newEntries]
    split
    · exact (ih keys).cons e
    · split
      · exact (ih _).cons e
      · exact (ih _).cons_cons e

/-- The loops write the entries not met before, while there is room for their keys. -/
theorem newEntries_eq {kept : List RouteEntry} {keys : Str} (h : KeysWritten kept keys)
    {es : List RouteEntry} (hes : ∀ e ∈ es, KeyLabel e.label) :
    newEntries keys es = keptEntries (4095 - keys.length) (firsts (·.label == ·.label) kept es) := by
  induction es generalizing kept keys with
  | nil => rfl
  | cons e es ih =>
    rw [List.forall_mem_cons] at hes
    have hroom := h.room
    have hsize : stopRoutesTextSize = 4096 := rfl
    have hexists := h.exists_eq hes.1
    rw [newEntries]
    cases hkey : kept.any (e.label == ·.label) with
    | true =>
      rw [hkey] at hexists
      rw [hexists, if_pos rfl, firsts_cons_of_any hkey]
      exact ih h hes.2
    | false =>
      rw [hkey] at hexists
      rw [hexists, if_neg Bool.false_ne_true, firsts_cons hkey, keptEntries]
      by_cases hfits : e.label.length + 2 ≤ 4095 - keys.length
      · have hlen : keys.length + (fenced (124 : Byte) e.label).length < stopRoutesTextSize := by
          rw [length_fenced]
          omega
        have hnext : KeysWritten (kept ++ [e]) (keys ++ fenced 124 e.label) := by
          refine ⟨?_, ?_, ?_⟩
          · rw [List.map_append, List.map_singleton, fences_concat, ← h.text]
          · rw [List.length_append]
            omega
          · rw [List.forall_mem_append, List.forall_mem_singleton]
            exact ⟨h.labels, hes.1⟩
        have hrest := ih hnext hes.2
        rw [List.length_append, length_fenced, ← Nat.sub_sub] at hrest
        rw [fenced_eq, strAppendf_of_lt hlen, if_pos hfits]
        dsimp only
        rw [hrest]
      · have hcut : (keys ++ snprintf (stopRoutesTextSize - keys.length) (fenced 124 e.label)).length = 4095 := by
          unfold snprintf
          rw [List.length_append, List.length_take, length_fenced]
          omega
        have hadd : strAppendf keys stopRoutesTextSize (fenced 124 e.label) =
            (keys ++ snprintf (stopRoutesTextSize - keys.length) (fenced 124 e.label), false) := by
          unfold strAppendf
          rw [if_neg (by omega), length_fenced, decide_eq_false (by omega)]
        rw [fenced_eq, hadd, if_neg hfits]
        exact newEntries_full hcut es

/-! ## The texts -/

/-- An entry is its pieces, behind a comma if there are others. -/
theorem appendEntry_eq {size : Nat} {routes : Str} (h : routes.length < size) (e : RouteEntry) :
    appendEntry size routes e =
      e.pieces.foldl (Piece.put (size - 1)) (if routes ≠ [] then put (size - 1) routes [44] else routes) := by
  have hs : 0 < size := by omega
  have hsep : (if routes ≠ [] then (strAppend routes size [44]).1 else routes) =
      if routes ≠ [] then put (size - 1) routes [44] else routes := by
    rw [strAppend_eq_put hs]
  have hroom : (if routes ≠ [] then (strAppend routes size [44]).1 else routes).length < size := by
    split
    · exact length_strAppend_lt h
    · exact h
  unfold appendEntry appendRouteText RouteEntry.pieces
  rw [hsep] at hroom ⊢
  generalize (if routes ≠ [] then put (size - 1) routes [44] else routes) = start at hroom ⊢
  obtain ⟨label, arrival, crowding⟩ := e
  have hlabel := @length_strAppendf_lt size start (label ++ [40]) hroom
  cases arrival with
  | none =>
    cases crowding with
    | none => exact strAppend_eq_piece hs
    | some c =>
      have hnone := @length_strAppend_lt size _ (utf8 "도착정보없음") hlabel
      rw [strAppendf_eq_piece hroom] at hlabel hnone
      rw [strAppend_eq_piece hs] at hnone
      simp only [Option.isSome_none, Option.isSome_some, Bool.false_or, ↓reduceIte, strAppendf_eq_piece hroom,
        strAppend_eq_piece hs, strAppendf_eq_piece hnone]
      rfl
  | some a =>
    have harrival := @length_strAppendf_lt size _ (fmtInt a.arrivalMinutes ++ utf8 "분/" ++ a.status.val) hlabel
    cases crowding with
    | none =>
      rw [strAppendf_eq_piece hroom] at hlabel
      simp only [Option.isSome_none, Option.isSome_some, Bool.or_false, ↓reduceIte, strAppendf_eq_piece hroom,
        strAppend_eq_piece hs, strAppendf_eq_piece hlabel]
      rfl
    | some c =>
      rw [strAppendf_eq_piece hroom] at hlabel
      rw [strAppendf_eq_piece hroom, strAppendf_eq_piece hlabel] at harrival
      simp only [Option.isSome_some, Bool.or_self, ↓reduceIte, strAppendf_eq_piece hroom,
        strAppend_eq_piece hs, strAppendf_eq_piece hlabel, strAppendf_eq_piece harrival]
      rfl

theorem RouteEntry.length_text (e : RouteEntry) (room : Nat) : (e.text room).length ≤ room := by
  unfold RouteEntry.text
  rw [Piece.length_foldl_put]
  exact Piece.foldl_fill_le (Nat.zero_le _) _

/-- Entries behind others. -/
theorem foldl_appendEntry {routes : Str} (hne : routes ≠ []) (h : routes.length ≤ 4095) (es : List RouteEntry) :
    es.foldl (appendEntry stopRoutesTextSize) routes =
      routes ++ (writtenEntries (4095 - routes.length) es).flatMap (44 :: ·) := by
  induction es generalizing routes with
  | nil => exact (List.append_nil _).symm
  | cons e es ih =>
    have hsize : stopRoutesTextSize - 1 = 4095 := rfl
    have hlt : routes.length < stopRoutesTextSize := Nat.lt_succ_of_le h
    rw [List.foldl_cons, appendEntry_eq hlt, if_pos hne, hsize]
    by_cases hfull : routes.length = 4095
    · have hsep : put 4095 routes [44] = routes := if_neg (by rw [List.length_singleton]; omega)
      rw [hsep, Piece.foldl_put_full _ hfull, ih hne h, hfull, Nat.sub_self]
      cases es <;> rfl
    · obtain ⟨room, hroom⟩ : ∃ room, 4095 - routes.length = room + 1 := ⟨4094 - routes.length, by omega⟩
      have hsep : put 4095 routes [44] = routes ++ [44] := put_of_le (by rw [List.length_singleton]; omega)
      have htext : e.pieces.foldl (Piece.put 4095) (routes ++ [44]) = routes ++ 44 :: e.text room := by
        have happend := @Piece.foldl_put_append _ room (routes ++ [44]) e.pieces []
        rw [List.length_append, List.length_singleton, show routes.length + 1 + room = 4095 by omega,
          List.append_nil, List.append_assoc] at happend
        exact happend
      have hlen := e.length_text room
      have hrest : 4095 - (routes ++ 44 :: e.text room).length = room - (e.text room).length := by
        rw [List.length_append, List.length_cons]
        omega
      rw [hsep, htext,
        ih (List.append_ne_nil_of_left_ne_nil hne _) (by rw [List.length_append, List.length_cons]; omega),
        hrest, hroom, writtenEntries, List.flatMap_cons, List.append_assoc]

/-- An entry for whose label there is room begins with it. -/
theorem RouteEntry.label_prefix_text {e : RouteEntry} {room : Nat} :
    e.label <+: e.text room ↔ e.label.length ≤ room := by
  constructor
  · exact fun h => Nat.le_trans h.length_le (e.length_text room)
  · intro h
    unfold RouteEntry.text RouteEntry.pieces
    by_cases hnote : (e.arrival.isSome || e.crowding.isSome) = true
    · rw [if_pos hnote]
      have hlabel : e.label <+: (Piece.cut (e.label ++ [40])).put room [] := by
        rw [Piece.put, List.nil_append, List.length_nil, Nat.sub_zero, List.prefix_take_iff]
        exact ⟨List.prefix_append .., h⟩
      exact hlabel.trans (Piece.isPrefix_foldl_put _ _)
    · rw [if_neg hnote, List.foldl_cons, List.foldl_nil, Piece.put, put_of_le (by simpa using h)]
      exact List.prefix_rfl

theorem RouteEntry.two_le_text {e : RouteEntry} (h : KeyLabel e.label) : 2 ≤ (e.text 4095).length := by
  have hlabel : e.label <+: e.text 4095 := RouteEntry.label_prefix_text.mpr (Nat.le_trans h.length (by decide))
  exact Nat.le_trans h.two_le hlabel.length_le

/-- Entries of which the first has a label. -/
theorem foldl_appendEntry_nil {e : RouteEntry} (h : KeyLabel e.label) (es : List RouteEntry) :
    (e :: es).foldl (appendEntry stopRoutesTextSize) [] = [44].intercalate (writtenEntries 4096 (e :: es)) := by
  have hne : e.text 4095 ≠ [] := List.ne_nil_of_length_pos (Nat.lt_of_lt_of_le Nat.two_pos (RouteEntry.two_le_text h))
  have htail := foldl_appendEntry hne (e.length_text 4095) es
  rw [List.foldl_cons, appendEntry_eq (by decide), if_neg (by decide), writtenEntries, intercalate_cons_eq_flatMap]
  exact htail

theorem two_le_writtenEntries {e : RouteEntry} (h : KeyLabel e.label) (es : List RouteEntry) :
    2 ≤ ([44].intercalate (writtenEntries 4096 (e :: es))).length := by
  have htwo := RouteEntry.two_le_text h
  rw [writtenEntries, intercalate_cons_eq_flatMap, List.length_append]
  omega

/-! ## The list -/

/-- The labels are free of what parts entries and keys. -/
def LabelsFree (data : AppData D) : Prop :=
  ∀ route ∈ data.routes, ∀ label, routeDisplayLabel data route maxRouteLen = some label → 44 ∉ label ∧ 124 ∉ label

theorem exists_route_of_mem {stopId : Str} {e : RouteEntry} (he : e ∈ entriesThrough data stopId) :
    ∃ route ∈ data.routes, routeDisplayLabel data route maxRouteLen = some e.label := by
  unfold entriesThrough at he
  obtain ⟨route, hroute, hentry⟩ := List.mem_filterMap.mp he
  obtain ⟨label, hlabel, rfl⟩ := Option.map_eq_some_iff.mp hentry
  exact ⟨route, (List.mem_filter.mp hroute).1, hlabel⟩

theorem keyLabel_of_mem (h : LabelsFree data) {stopId : Str} {e : RouteEntry} (he : e ∈ entriesThrough data stopId) :
    KeyLabel e.label := by
  obtain ⟨route, hroute, hlabel⟩ := exists_route_of_mem he
  exact ⟨(h route hroute _ hlabel).2, two_le_routeDisplayLabel (by decide) hlabel, length_routeDisplayLabel hlabel⟩

theorem keptEntries_first {e : RouteEntry} (h : KeyLabel e.label) (es : List RouteEntry) :
    keptEntries 4095 (e :: es) = e :: keptEntries (4095 - (e.label.length + 2)) es := by
  have hlen := h.length
  rw [keptEntries, if_pos (by omega)]

/-- The first entry is always written. -/
theorem newEntries_first {e : RouteEntry} (hlen : e.label.length ≤ 127) (es : List RouteEntry) :
    ∃ rest, newEntries [] (e :: es) = e :: rest := by
  have hnone : routeKeyExists [] e.label = false := by
    unfold routeKeyExists
    rw [Bool.and_eq_false_iff]
    refine .inr ?_
    unfold strstr snprintf
    rfl
  have hadd : strAppendf [] stopRoutesTextSize ([124] ++ e.label ++ [124]) = ([124] ++ e.label ++ [124], true) := by
    rw [fenced_eq]
    have hsize : stopRoutesTextSize = 4096 := rfl
    exact strAppendf_of_lt (by rw [length_fenced, List.length_nil]; omega)
  rw [newEntries, hnone, if_neg Bool.false_ne_true, hadd]
  exact ⟨_, rfl⟩

theorem label_of_mem {stopId : Str} {e : RouteEntry} (he : e ∈ entriesThrough data stopId) :
    2 ≤ e.label.length ∧ e.label.length ≤ 127 := by
  obtain ⟨route, -, hlabel⟩ := exists_route_of_mem he
  exact ⟨two_le_routeDisplayLabel (by decide) hlabel, length_routeDisplayLabel hlabel⟩

theorem mem_metEntries {stop : StopNode D} {e : RouteEntry} (he : e ∈ metEntries data stop) :
    ∃ stopId, e ∈ entriesThrough data stopId := by
  unfold metEntries at he
  split at he
  · obtain ⟨stopId, -, he⟩ := List.mem_flatMap.mp he
    exact ⟨stopId, he⟩
  · exact ⟨_, he⟩

theorem appendEntry_ne_nil {e : RouteEntry} (h : 2 ≤ e.label.length) (hlen : e.label.length ≤ 127) :
    appendEntry stopRoutesTextSize [] e ≠ [] := by
  have hsize : stopRoutesTextSize = 4096 := rfl
  have hlabel : e.label <+: e.text 4095 := RouteEntry.label_prefix_text.mpr (Nat.le_trans hlen (by decide))
  have htwo := hlabel.length_le
  rw [appendEntry_eq (by decide), if_neg (by decide)]
  exact List.ne_nil_of_length_pos (by show 0 < (e.text 4095).length; omega)

theorem prefix_foldl_appendEntry {routes : Str} (h : routes.length < stopRoutesTextSize) (es : List RouteEntry) :
    routes <+: es.foldl (appendEntry stopRoutesTextSize) routes := by
  induction es generalizing routes with
  | nil => exact List.prefix_rfl
  | cons e es ih =>
    have hsep : routes <+: if routes ≠ [] then put (stopRoutesTextSize - 1) routes [44] else routes := by
      split
      · exact Piece.isPrefix_put (.whole [44])
      · exact List.prefix_rfl
    have hnext : routes <+: appendEntry stopRoutesTextSize routes e := by
      rw [appendEntry_eq h]
      exact hsep.trans (Piece.isPrefix_foldl_put _ _)
    exact hnext.trans (ih (length_appendRouteText_lt h ..))

/-- What the loops leave of entries whose labels are not cut. -/
theorem foldl_addEntry_text {es : List RouteEntry} (hes : ∀ e ∈ es, 2 ≤ e.label.length ∧ e.label.length ≤ 127) :
    (if (es.foldl (addEntry stopRoutesTextSize stopRoutesTextSize) (⟨[], []⟩, 0)).2 = 0 ∨
        (es.foldl (addEntry stopRoutesTextSize stopRoutesTextSize) (⟨[], []⟩, 0)).1.routes = [] then
      safeStrcpy stopRoutesTextSize (utf8 "-")
      else (es.foldl (addEntry stopRoutesTextSize stopRoutesTextSize) (⟨[], []⟩, 0)).1.routes) =
      if newEntries [] es = [] then utf8 "-" else (newEntries [] es).foldl (appendEntry stopRoutesTextSize) [] := by
  obtain ⟨hroutes, hcount⟩ := foldl_addEntry stopRoutesTextSize es [] [] 0
  rw [hroutes, hcount, Nat.zero_add]
  cases es with
  | nil => rfl
  | cons e es =>
    obtain ⟨htwo, hlen⟩ := hes e (List.mem_cons_self ..)
    obtain ⟨rest, hrest⟩ := newEntries_first hlen es
    have hfirst := appendEntry_ne_nil htwo hlen
    have hlt : (appendEntry stopRoutesTextSize [] e).length < stopRoutesTextSize :=
      length_appendRouteText_lt (by decide) ..
    have hne : (e :: rest).foldl (appendEntry stopRoutesTextSize) [] ≠ [] := by
      intro hnil
      have hpre := prefix_foldl_appendEntry hlt rest
      rw [List.foldl_cons] at hnil
      rw [hnil] at hpre
      exact hfirst (List.prefix_nil.mp hpre)
    rw [hrest, List.length_cons, if_neg (not_or.mpr ⟨Nat.succ_ne_zero _, hne⟩), if_neg (List.cons_ne_nil _ _)]

/-- The text of a stop is that of the entries that the loops write. -/
theorem appendRoutesForStop_new (data : AppData D) (stop : StopNode D) :
    appendRoutesForStop data stop stopRoutesTextSize =
      if newEntries [] (metEntries data stop) = [] then utf8 "-"
      else (newEntries [] (metEntries data stop)).foldl (appendEntry stopRoutesTextSize) [] := by
  have hmet := foldl_addEntry_text fun e (he : e ∈ metEntries data stop) => by
    obtain ⟨stopId, he⟩ := mem_metEntries he
    exact label_of_mem he
  unfold appendRoutesForStop
  unfold metEntries at hmet ⊢
  dsimp only
  rw [appendRoutesForStopId_eq, appendRoutesForAliasStopIds_eq]
  cases hown : entriesThrough data stop.stopId with
  | nil =>
    rw [hown, if_pos rfl] at hmet
    exact hmet
  | cons e es =>
    obtain ⟨htwo, hlen⟩ := label_of_mem (hown ▸ List.mem_cons_self .. : e ∈ entriesThrough data stop.stopId)
    obtain ⟨rest, hrest⟩ := newEntries_first hlen es
    have hcount := (foldl_addEntry stopRoutesTextSize (e :: es) [] [] 0).2
    rw [hrest, List.length_cons] at hcount
    rw [hown, if_neg (List.cons_ne_nil _ _)] at hmet
    rw [if_neg (List.cons_ne_nil _ _)]
    generalize (e :: es).foldl (addEntry stopRoutesTextSize stopRoutesTextSize) (⟨[], []⟩, 0) = st at hcount hmet ⊢
    rw [if_neg (show ¬ st.2 = 0 by omega)]
    exact hmet

/-- Where the labels are free of what parts them, these are the entries kept of the stop. -/
theorem appendRoutesForStop_eq (h : LabelsFree data) (stop : StopNode D) :
    appendRoutesForStop data stop stopRoutesTextSize =
      if stopEntries data stop = [] then utf8 "-"
      else [44].intercalate (writtenEntries 4096 (keptEntries 4095 (stopEntries data stop))) := by
  have hstart : KeysWritten [] [] := ⟨rfl, Nat.zero_le _, List.forall_mem_nil _⟩
  have hlabels : ∀ e ∈ metEntries data stop, KeyLabel e.label := fun e he => by
    obtain ⟨stopId, he⟩ := mem_metEntries he
    exact keyLabel_of_mem h he
  have hnew := newEntries_eq hstart hlabels
  rw [firsts_empty, List.length_nil, Nat.sub_zero] at hnew
  rw [appendRoutesForStop_new, hnew]
  show _ = if (metEntries data stop).eraseDupsBy (·.label == ·.label) = [] then _ else [44].intercalate
    (writtenEntries 4096 (keptEntries 4095 ((metEntries data stop).eraseDupsBy (·.label == ·.label))))
  generalize metEntries data stop = es at hlabels
  cases es with
  | nil => rfl
  | cons e es =>
    rw [List.forall_mem_cons] at hlabels
    rw [List.eraseDupsBy_cons, keptEntries_first hlabels.1, if_neg (List.cons_ne_nil _ _),
      if_neg (List.cons_ne_nil _ _), foldl_appendEntry_nil hlabels.1]

end Transit
