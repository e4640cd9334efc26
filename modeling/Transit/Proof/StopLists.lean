import Transit.Proof.RecordViews
import Transit.Proof.StopRoutes

/-!
# What the route list of a stop should be

A stop's list has one entry for every route through it that can be shown, which
begins with the label of the route. Where several ids that alias the stop have
routes, the code lists these id by id; `ServedThrough`: only one id has any.

* `appendRoutesForStop_lists`: then no comma in the notes and room for the
  labels are enough.
-/

namespace Transit

open Framework

variable {D : Type} {data : AppData D}

/-! ## What the list should be -/

/-- The labels of the routes that pass, in the order of the route list, each once. -/
def labelsThrough (data : AppData D) (passes : RouteNode → Bool) : List Str :=
  ((data.routes.filter passes).filterMap (routeDisplayLabel data · maxRouteLen)).eraseDups

/-- The labels of a stop: of the routes through its own id, or else through those that alias it. -/
def stopLabels (data : AppData D) (stop : StopNode D) : List Str :=
  if labelsThrough data (routeHasStop · stop.stopId) = [] then
    labelsThrough data fun route => (aliasIds data stop).any (routeHasStop route)
  else labelsThrough data (routeHasStop · stop.stopId)

/-- A text with an entry for every label, or `-`. -/
structure ListsLabels (labels : List Str) (text : Str) : Prop where
  entries : labels ≠ [] → List.Forall₂ (· <+: ·) labels (text.splitOn 44)
  dash : text = utf8 "-" ↔ labels = []

/-- A route that can be shown passes through a stop with this id. -/
def Serves (data : AppData D) (stopId : Str) : Prop :=
  ∃ route ∈ data.routes, routeHasStop route stopId = true ∧ (routeDisplayLabel data route maxRouteLen).isSome = true

/-- All routes of a stop pass through this one id: its own, or else the only alias that a route passes through. -/
structure ServedThrough (data : AppData D) (stop : StopNode D) (stopId : Str) : Prop where
  named : stopId = stop.stopId ∨ ¬ Serves data stop.stopId ∧ stopId ∈ aliasIds data stop
  only : ¬ Serves data stop.stopId → ∀ other ∈ aliasIds data stop, other ≠ stopId → ¬ Serves data other

/-- The routes through a stop id that can be shown, each label once. -/
def routesThrough (data : AppData D) (stopId : Str) : List RouteEntry :=
  (entriesThrough data stopId).eraseDupsBy (·.label == ·.label)

/-- The room that an entry takes. -/
def RouteEntry.used (e : RouteEntry) (room : Nat) : Nat := e.pieces.foldl (Piece.fill room) 0

/-- There is room for every label behind its comma. -/
def LabelsFit : Nat → List RouteEntry → Prop
  | _, [] => True
  | room, e :: es => e.label.length < room ∧ LabelsFit (room - 1 - e.used (room - 1)) es

instance decidableLabelsFit : ∀ room es, Decidable (LabelsFit room es)
  | _, [] => isTrue trivial
  | room, e :: es =>
    have := decidableLabelsFit (room - 1 - e.used (room - 1)) es
    inferInstanceAs (Decidable (e.label.length < room ∧ LabelsFit (room - 1 - e.used (room - 1)) es))

/-- There is room for all labels, among the keys and in the list. -/
structure EntriesFit (es : List RouteEntry) : Prop where
  keys : (es.map (·.label.length + 2)).sum ≤ 4095
  labels : LabelsFit 4096 es

/-- The text of an entry where nothing is cut. -/
def RouteEntry.whole (e : RouteEntry) : Str := e.pieces.flatMap Piece.text

/-- There is room for everything. -/
structure EntriesWhole (es : List RouteEntry) : Prop where
  keys : (es.map (·.label.length + 2)).sum ≤ 4095
  texts : (es.map (·.whole.length + 1)).sum ≤ 4096

/-- No comma comes from the arrival and crowding tables. -/
def NotesFree (es : List RouteEntry) : Prop :=
  ∀ e ∈ es, (∀ arrival ∈ e.arrival, 44 ∉ arrival.status.val) ∧ ∀ crowding ∈ e.crowding, 44 ∉ crowding.crowdingLevel.val

/-! ## Room for the labels -/

theorem RouteEntry.length_text_eq (e : RouteEntry) (room : Nat) : (e.text room).length = e.used room := by
  unfold RouteEntry.text RouteEntry.used
  rw [Piece.length_foldl_put]
  rfl

/-- Every entry begins with its label exactly when the labels fit. -/
theorem forall₂_writtenEntries_iff {room : Nat} {es : List RouteEntry} :
    List.Forall₂ (· <+: ·) (es.map (·.label)) (writtenEntries room es) ↔ LabelsFit room es := by
  induction es generalizing room with
  | nil => exact ⟨fun _ => trivial, fun _ => .nil⟩
  | cons e es ih =>
    cases room with
    | zero => exact ⟨fun h => absurd h.length_eq (Nat.succ_ne_zero _), fun h => absurd h.1 (Nat.not_lt_zero _)⟩
    | succ room =>
      rw [List.map_cons, writtenEntries, List.forall₂_cons, ih, RouteEntry.label_prefix_text, LabelsFit,
        RouteEntry.length_text_eq, Nat.add_sub_cancel, Nat.lt_succ_iff]

theorem length_writtenEntries_le (room : Nat) (es : List RouteEntry) :
    (writtenEntries room es).length ≤ es.length := by
  induction es generalizing room with
  | nil => exact Nat.le_refl _
  | cons e es ih =>
    cases room with
    | zero => exact Nat.zero_le _
    | succ room => exact Nat.succ_le_succ (ih _)

theorem keptEntries_first_of (room : Nat) (es : List RouteEntry) : keptEntries room es <+: es := by
  induction es generalizing room with
  | nil => exact List.prefix_rfl
  | cons e es ih =>
    rw [keptEntries]
    split
    · exact (List.prefix_cons_inj e).mpr (ih _)
    · exact List.nil_prefix

theorem keptEntries_eq_iff {room : Nat} {es : List RouteEntry} :
    keptEntries room es = es ↔ (es.map (·.label.length + 2)).sum ≤ room := by
  induction es generalizing room with
  | nil => exact ⟨fun _ => Nat.zero_le _, fun _ => rfl⟩
  | cons e es ih =>
    rw [keptEntries, List.map_cons, List.sum_cons]
    by_cases hfits : e.label.length + 2 ≤ room
    · rw [if_pos hfits, List.cons.injEq, ih]
      exact ⟨fun h => by omega, fun h => ⟨rfl, by omega⟩⟩
    · rw [if_neg hfits]
      exact ⟨fun h => absurd h.symm (List.cons_ne_nil _ _), fun h => by omega⟩

/-- Where everything fits, nothing is cut. -/
theorem writtenEntries_whole {room : Nat} {es : List RouteEntry} (h : (es.map (·.whole.length + 1)).sum ≤ room) :
    writtenEntries room es = es.map (·.whole) := by
  induction es generalizing room with
  | nil => rfl
  | cons e es ih =>
    rw [List.map_cons, List.sum_cons] at h
    cases room with
    | zero => omega
    | succ room =>
      have htext : e.text room = e.whole := by
        have hlen : e.whole.length ≤ room := by omega
        exact Piece.foldl_put_of_le (by rw [List.length_nil, Nat.zero_add]; exact hlen)
      rw [writtenEntries, htext, List.map_cons, ih (by omega)]

/-! ## Commas -/

theorem not_mem_text {e : RouteEntry} {room : Nat} (h : 44 ∉ e.whole) : 44 ∉ e.text room := by
  intro hm
  rcases Piece.mem_foldl_put _ hm with hm | ⟨p, hp, hm⟩
  · cases hm
  · exact h (List.mem_flatMap.mpr ⟨p, hp, hm⟩)

theorem not_mem_writtenEntries {room : Nat} {es : List RouteEntry} (h : ∀ e ∈ es, 44 ∉ e.whole) :
    ∀ t ∈ writtenEntries room es, 44 ∉ t := by
  induction es generalizing room with
  | nil => exact List.forall_mem_nil _
  | cons e es ih =>
    rw [List.forall_mem_cons] at h
    cases room with
    | zero => exact List.forall_mem_nil _
    | succ room =>
      rw [writtenEntries, List.forall_mem_cons]
      exact ⟨not_mem_text h.1, ih h.2⟩

/-- The commas of an entry come from its label and its notes. -/
theorem not_mem_whole_iff {e : RouteEntry} (hlabel : 44 ∉ e.label) :
    44 ∉ e.whole ↔ (∀ arrival ∈ e.arrival, 44 ∉ arrival.status.val) ∧
      ∀ crowding ∈ e.crowding, 44 ∉ crowding.crowdingLevel.val := by
  have hnumber : ∀ n, (44 : Byte) ∉ fmtInt n := not_mem_fmtInt (by decide)
  have hminutes : (44 : Byte) ∉ utf8 "분/" := by decide
  have hnone : (44 : Byte) ∉ utf8 "도착정보없음" := by decide
  obtain ⟨label, arrival, crowding⟩ := e
  unfold RouteEntry.whole RouteEntry.pieces
  cases arrival <;> cases crowding <;> simp [Piece.text, hlabel, hnumber, hminutes, hnone]

theorem RouteEntry.label_prefix_whole (e : RouteEntry) : e.label <+: e.whole := by
  unfold RouteEntry.whole RouteEntry.pieces
  by_cases hnote : (e.arrival.isSome || e.crowding.isSome) = true
  · rw [if_pos hnote, List.append_assoc, List.cons_append, List.flatMap_cons, Piece.text, List.append_assoc]
    exact List.prefix_append ..
  · rw [if_neg hnote, List.flatMap_cons, Piece.text]
    exact List.prefix_append ..

theorem notesFree_iff {es : List RouteEntry} (h : ∀ e ∈ es, 44 ∉ e.label) :
    NotesFree es ↔ ∀ e ∈ es, 44 ∉ e.whole :=
  forall₂_congr fun e he => (not_mem_whole_iff (h e he)).symm

/-- A text of entries lists the labels, as far as the commas go. -/
theorem listsLabels_iff {labels : List Str} {text : Str} (hne : labels ≠ []) (htwo : 2 ≤ text.length) :
    ListsLabels labels text ↔ List.Forall₂ (· <+: ·) labels (text.splitOn 44) := by
  refine ⟨fun h => h.entries hne, fun h => ⟨fun _ => h, ⟨fun htext => ?_, fun hnil => absurd hnil hne⟩⟩⟩
  have hone : (utf8 "-").length = 1 := by decide
  rw [htext] at htwo
  omega

/-- Where the notes hold no comma. -/
theorem listsLabels_kept_iff {e : RouteEntry} {es : List RouteEntry} (hkey : KeyLabel e.label)
    (hfree : ∀ e' ∈ e :: es, 44 ∉ e'.whole) :
    ListsLabels ((e :: es).map (·.label)) ([44].intercalate (writtenEntries 4096 (keptEntries 4095 (e :: es)))) ↔
      EntriesFit (e :: es) := by
  have hkept := keptEntries_first hkey es
  have htwo := two_le_writtenEntries hkey (keptEntries (4095 - (e.label.length + 2)) es)
  have hwritten : ∀ t ∈ writtenEntries 4096 (keptEntries 4095 (e :: es)), 44 ∉ t :=
    not_mem_writtenEntries fun e' he => hfree e' ((keptEntries_first_of 4095 (e :: es)).subset he)
  have hne : writtenEntries 4096 (keptEntries 4095 (e :: es)) ≠ [] := by
    rw [hkept, writtenEntries]
    exact List.cons_ne_nil _ _
  rw [← hkept] at htwo
  rw [listsLabels_iff (by rw [List.map_cons]; exact List.cons_ne_nil _ _) htwo,
    List.splitOn_intercalate 44 hwritten hne]
  constructor
  · intro h
    have hlen := h.length_eq
    rw [List.length_map] at hlen
    have hle := length_writtenEntries_le 4096 (keptEntries 4095 (e :: es))
    have hall : keptEntries 4095 (e :: es) = e :: es :=
      (keptEntries_first_of 4095 (e :: es)).eq_of_length_le (by omega)
    rw [hall] at h
    exact ⟨keptEntries_eq_iff.mp hall, forall₂_writtenEntries_iff.mp h⟩
  · intro h
    rw [keptEntries_eq_iff.mpr h.keys]
    exact forall₂_writtenEntries_iff.mpr h.labels

/-- Where there is room for everything. -/
theorem listsLabels_whole_iff {e : RouteEntry} {es : List RouteEntry} (hkey : KeyLabel e.label)
    (hlabels : ∀ e' ∈ e :: es, 44 ∉ e'.label) (h : EntriesWhole (e :: es)) :
    ListsLabels ((e :: es).map (·.label)) ([44].intercalate (writtenEntries 4096 (keptEntries 4095 (e :: es)))) ↔
      NotesFree (e :: es) := by
  have htwo := two_le_writtenEntries hkey es
  rw [keptEntries_eq_iff.mpr h.keys, listsLabels_iff (by rw [List.map_cons]; exact List.cons_ne_nil _ _) htwo,
    writtenEntries_whole h.texts, notesFree_iff hlabels]
  have hne : (e :: es).map (·.whole) ≠ [] := by
    rw [List.map_cons]
    exact List.cons_ne_nil _ _
  constructor
  · intro hall
    have hlen := hall.length_eq
    rw [List.length_map] at hlen
    have hfree := not_mem_of_length_splitOn hne (by rw [← hlen, List.length_map])
    exact fun e' he => hfree _ (List.mem_map_of_mem he)
  · intro hfree
    rw [List.splitOn_intercalate 44 (List.forall_mem_map.mpr hfree) hne, List.forall₂_map_left_iff,
      List.forall₂_map_right_iff, List.forall₂_same]
    exact fun e' _ => e'.label_prefix_whole

/-! ## The stop -/

theorem map_label_entriesThrough (stopId : Str) :
    ((entriesThrough data stopId).eraseDupsBy (·.label == ·.label)).map (·.label) =
      labelsThrough data (routeHasStop · stopId) := by
  unfold labelsThrough entriesThrough
  rw [map_eraseDupsBy, List.map_filterMap]
  simp only [Option.map_map, Function.comp_def, Option.map_id']

theorem eraseDupsBy_eq_nil {es : List RouteEntry} : es.eraseDupsBy (·.label == ·.label) = [] ↔ es = [] := by
  cases es with
  | nil => exact ⟨fun _ => rfl, fun _ => rfl⟩
  | cons e es =>
    rw [List.eraseDupsBy_cons]
    exact ⟨fun h => absurd h (List.cons_ne_nil _ _), fun h => absurd h (List.cons_ne_nil _ _)⟩

theorem entriesThrough_eq_nil {stopId : Str} : entriesThrough data stopId = [] ↔ ¬ Serves data stopId := by
  unfold entriesThrough Serves
  rw [List.filterMap_eq_nil_iff, List.forall_mem_filter]
  simp only [Option.map_eq_none_iff, not_exists, not_and, Bool.not_eq_true, Option.isSome_eq_false_iff,
    Option.isNone_iff_eq_none]

/-- Which routes pass matters only for those that can be shown. -/
theorem labelsThrough_congr {passes passes' : RouteNode → Bool}
    (h : ∀ route ∈ data.routes, (routeDisplayLabel data route maxRouteLen).isSome = true →
      passes route = passes' route) : labelsThrough data passes = labelsThrough data passes' := by
  unfold labelsThrough
  rw [List.filterMap_filter, List.filterMap_filter]
  congr 1
  refine List.filterMap_congr fun route hroute => ?_
  cases hlabel : routeDisplayLabel data route maxRouteLen with
  | none => rw [ite_self, ite_self]
  | some label => rw [h route hroute (by rw [hlabel]; rfl)]

section

variable {stop : StopNode D} {stopId : Str}

/-- The loops meet the routes of that id alone. -/
theorem stopEntries_servedThrough (h : ServedThrough data stop stopId) :
    stopEntries data stop = routesThrough data stopId := by
  unfold stopEntries routesThrough
  by_cases hown : Serves data stop.stopId
  · rw [if_neg (fun hnil => entriesThrough_eq_nil.mp hnil hown), h.named.resolve_right fun hnot => hnot.1 hown]
  · have hnone := entriesThrough_eq_nil.mpr hown
    have hothers : ∀ other ∈ aliasIds data stop, other ≠ stopId → entriesThrough data other = [] :=
      fun other hother hne => entriesThrough_eq_nil.mpr (h.only hown other hother hne)
    rw [if_pos hnone]
    by_cases halias : stopId ∈ aliasIds data stop
    · exact eraseDupsBy_flatMap_only (fun e => beq_self_eq_true e.label) halias hothers
    · have hsame := h.named.resolve_right fun hnot => halias hnot.2
      rw [hsame, hnone, List.flatMap_eq_nil_iff.mpr fun other hother =>
        hothers other hother fun heq => halias (heq ▸ hother)]

/-- The labels of a stop are those of that id, in the order of the route list. -/
theorem stopLabels_servedThrough (h : ServedThrough data stop stopId) :
    stopLabels data stop = (routesThrough data stopId).map (·.label) := by
  have hnil : labelsThrough data (routeHasStop · stop.stopId) = [] ↔ ¬ Serves data stop.stopId := by
    rw [← entriesThrough_eq_nil, ← map_label_entriesThrough, List.map_eq_nil_iff]
    exact eraseDupsBy_eq_nil
  unfold routesThrough stopLabels
  rw [map_label_entriesThrough]
  by_cases hown : Serves data stop.stopId
  · rw [if_neg fun hlabels => hnil.mp hlabels hown, h.named.resolve_right fun hnot => hnot.1 hown]
  · rw [if_pos (hnil.mpr hown)]
    refine labelsThrough_congr fun route hroute hlabel => ?_
    have hothers : ∀ other ∈ aliasIds data stop, routeHasStop route other = true → other = stopId :=
      fun other hother hpass => by
        by_contra hne
        exact h.only hown other hother hne ⟨route, hroute, hpass, hlabel⟩
    rw [Bool.eq_iff_iff, List.any_eq_true]
    constructor
    · rintro ⟨other, hother, hpass⟩
      exact hothers other hother hpass ▸ hpass
    · intro hpass
      rcases h.named with hsame | ⟨-, halias⟩
      · exact absurd ⟨route, hroute, hsame ▸ hpass, hlabel⟩ hown
      · exact ⟨stopId, halias, hpass⟩

theorem routesThrough_labels (h : LabelsFree data) : ∀ e ∈ routesThrough data stopId, KeyLabel e.label ∧ 44 ∉ e.label :=
  fun e he => by
    have hmem := (eraseDupsBy_sublist _ (entriesThrough data stopId)).subset he
    obtain ⟨route, hroute, hlabel⟩ := exists_route_of_mem hmem
    exact ⟨keyLabel_of_mem h hmem, (h route hroute _ hlabel).1⟩

theorem listsLabels_nil : ListsLabels [] (utf8 "-") :=
  ⟨fun hne => absurd rfl hne, ⟨fun _ => rfl, fun _ => rfl⟩⟩

variable (h : LabelsFree data) (hid : ServedThrough data stop stopId)

include h hid

theorem lists_iff_entriesFit (hnotes : NotesFree (routesThrough data stopId)) :
    ListsLabels (stopLabels data stop) (appendRoutesForStop data stop stopRoutesTextSize) ↔
      EntriesFit (routesThrough data stopId) := by
  have hmem := @routesThrough_labels D data stopId h
  rw [stopLabels_servedThrough hid, appendRoutesForStop_eq h, stopEntries_servedThrough hid]
  generalize routesThrough data stopId = es at hmem hnotes ⊢
  cases es with
  | nil => exact ⟨fun _ => ⟨Nat.zero_le _, trivial⟩, fun _ => listsLabels_nil⟩
  | cons e es =>
    have hlabels : ∀ e' ∈ e :: es, 44 ∉ e'.label := fun e' he => (hmem e' he).2
    rw [if_neg (List.cons_ne_nil _ _)]
    exact listsLabels_kept_iff (hmem e (List.mem_cons_self ..)).1 ((notesFree_iff hlabels).mp hnotes)

theorem lists_iff_notesFree (hwhole : EntriesWhole (routesThrough data stopId)) :
    ListsLabels (stopLabels data stop) (appendRoutesForStop data stop stopRoutesTextSize) ↔
      NotesFree (routesThrough data stopId) := by
  have hmem := @routesThrough_labels D data stopId h
  rw [stopLabels_servedThrough hid, appendRoutesForStop_eq h, stopEntries_servedThrough hid]
  generalize routesThrough data stopId = es at hmem hwhole ⊢
  cases es with
  | nil => exact ⟨fun _ => List.forall_mem_nil _, fun _ => listsLabels_nil⟩
  | cons e es =>
    rw [if_neg (List.cons_ne_nil _ _)]
    exact listsLabels_whole_iff (hmem e (List.mem_cons_self ..)).1 (fun e' he => (hmem e' he).2) hwhole

end

/-- A stop whose routes all pass through one id: its list has one entry for
every label where no note holds a comma and there is room for all labels. The
room is needed where no note holds a comma, and notes free of commas are needed
where there is room for everything. -/
theorem appendRoutesForStop_lists (h : LabelsFree data) (stop : StopNode D) (stopId : Str)
    (hid : ServedThrough data stop stopId) :
    (NotesFree (routesThrough data stopId) ∧ EntriesFit (routesThrough data stopId) →
      ListsLabels (stopLabels data stop) (appendRoutesForStop data stop stopRoutesTextSize)) ∧
    (ListsLabels (stopLabels data stop) (appendRoutesForStop data stop stopRoutesTextSize) →
      (NotesFree (routesThrough data stopId) → EntriesFit (routesThrough data stopId)) ∧
      (EntriesWhole (routesThrough data stopId) → NotesFree (routesThrough data stopId))) :=
  ⟨fun hboth => (lists_iff_entriesFit h hid hboth.1).mpr hboth.2,
    fun hlists => ⟨fun hnotes => (lists_iff_entriesFit h hid hnotes).mp hlists,
      fun hwhole => (lists_iff_notesFree h hid hwhole).mp hlists⟩⟩

/-! ## A stop with many routes -/

theorem labelsFree_of_all (h : (data.routes.all fun route =>
    (routeDisplayLabel data route maxRouteLen).all fun label => !label.contains 44 && !label.contains 124) = true) :
    LabelsFree data := by
  intro route hroute label hlabel
  have hfree := List.all_eq_true.mp h route hroute
  rw [hlabel, Option.all_some, Bool.and_eq_true, Bool.not_eq_true', Bool.not_eq_true', ← Bool.not_eq_true,
    ← Bool.not_eq_true, List.contains_iff_mem, List.contains_iff_mem] at hfree
  exact hfree

/-- Entries without notes. -/
theorem notesFree_of_all {es : List RouteEntry} (h : (es.all fun e => e.arrival.isNone && e.crowding.isNone) = true) :
    NotesFree es := by
  intro e he
  have hnone := List.all_eq_true.mp h e he
  rw [Bool.and_eq_true, Option.isNone_iff_eq_none, Option.isNone_iff_eq_none] at hnone
  rw [hnone.1, hnone.2]
  exact ⟨nofun, nofun⟩

/-- A stop of the kiosk's files. -/
def kioskStop : StopNode ℚ := ⟨CStr.copy _ (utf8 "S"), CStr.copy _ (utf8 "S"), 0, 0, CStr.copy _ []⟩

theorem servedThrough_own {stop : StopNode D} (h : Serves data stop.stopId) : ServedThrough data stop stop.stopId :=
  ⟨.inl rfl, fun hnot => absurd h hnot⟩

theorem serves_of_isEmpty {stopId : Str} (h : (entriesThrough data stopId).isEmpty = false) : Serves data stopId := by
  by_contra hnot
  rw [entriesThrough_eq_nil.mpr hnot] at h
  cases h

theorem appendRoutesForStop_kiosk : ListsLabels (stopLabels (loadedData kioskFiles : AppData ℚ) kioskStop)
    (appendRoutesForStop (loadedData kioskFiles : AppData ℚ) kioskStop stopRoutesTextSize) := by
  have hlabels : LabelsFree (loadedData kioskFiles : AppData ℚ) := labelsFree_of_all (by decide +kernel)
  have hentries : (entriesThrough (loadedData kioskFiles : AppData ℚ) kioskStop.stopId).isEmpty = false ∧
      ((routesThrough (loadedData kioskFiles : AppData ℚ) kioskStop.stopId).all fun e =>
        e.arrival.isNone && e.crowding.isNone) = true ∧
      ((routesThrough (loadedData kioskFiles : AppData ℚ) kioskStop.stopId).map (·.label.length + 2)).sum ≤ 4095 ∧
      LabelsFit 4096 (routesThrough (loadedData kioskFiles : AppData ℚ) kioskStop.stopId) := by decide +kernel
  obtain ⟨hown, hnotes, hkeys, hfit⟩ := hentries
  have hid : ServedThrough (loadedData kioskFiles : AppData ℚ) kioskStop kioskStop.stopId :=
    servedThrough_own (serves_of_isEmpty hown)
  exact (appendRoutesForStop_lists hlabels kioskStop _ hid).1 ⟨notesFree_of_all hnotes, hkeys, hfit⟩

/-- Files in which this many routes with labels of 127 bytes pass through a stop. -/
def manyRoutesFiles (n : Nat) : CsvFiles where
  busStops := some (utf8 "stop_id,stop_name\nS,S\n")
  busRoutes := some (utf8 "route_no,route_name,start_stop_id,end_stop_id\n" ++ (List.range n).flatMap fun i =>
    fmtNat i ++ List.replicate 20 120 ++ utf8 ",방면" ++ List.replicate 90 120 ++ utf8 ",S,S\n")
  routeStops := some (utf8 "route_no,seq,stop_id\n" ++ (List.range n).flatMap fun i =>
    fmtNat i ++ List.replicate 20 120 ++ utf8 ",1,S\n")
  subwayStations := some (utf8 "station_id,station_name,line_no\nT,T,2\n")
  subwayDistances := some (utf8 "from_station_id,to_station_id,distance_km,estimated_minutes\nT,T,,2\n")
  facilities := some (utf8 "facility_id,name,category,nearest_node_id,address\nF,Kiosk,shop,S,Main St\n")
  arrivalTest := some (utf8 "route_no,node_id,time_slot,arrival_minutes,status\n")
  crowdingTest := some (utf8 "route_no,node_id,time_slot,crowding_level\n")

/-- The last of 32 routes is not in the list. -/
theorem appendRoutesForStop_many : (dataLoaderLoad (manyRoutesFiles 32) : AppData ℚ × Bool).2 = true ∧
    LabelsFree (loadedData (manyRoutesFiles 32) : AppData ℚ) ∧
    ∃ stop ∈ (loadedData (manyRoutesFiles 32) : AppData ℚ).stops,
      ¬ ListsLabels (stopLabels (loadedData (manyRoutesFiles 32) : AppData ℚ) stop)
        (appendRoutesForStop (loadedData (manyRoutesFiles 32) : AppData ℚ) stop stopRoutesTextSize) := by
  have hcheck : (dataLoaderLoad (manyRoutesFiles 32) : AppData ℚ × Bool).2 = true ∧
      ((loadedData (manyRoutesFiles 32) : AppData ℚ).routes.all fun route =>
        (routeDisplayLabel (loadedData (manyRoutesFiles 32) : AppData ℚ) route maxRouteLen).all fun label =>
          !label.contains 44 && !label.contains 124) = true ∧
      ∃ stop ∈ (loadedData (manyRoutesFiles 32) : AppData ℚ).stops,
        (entriesThrough (loadedData (manyRoutesFiles 32) : AppData ℚ) stop.stopId).isEmpty = false ∧
        ((routesThrough (loadedData (manyRoutesFiles 32) : AppData ℚ) stop.stopId).all fun e =>
          e.arrival.isNone && e.crowding.isNone) = true ∧
        4095 < ((routesThrough (loadedData (manyRoutesFiles 32) : AppData ℚ) stop.stopId).map
          (·.label.length + 2)).sum := by
    decide +kernel
  obtain ⟨hload, hlabels, stop, hstop, hown, hnotes, hkeys⟩ := hcheck
  generalize (loadedData (manyRoutesFiles 32) : AppData ℚ) = data at hlabels hstop hown hnotes hkeys ⊢
  have hfree := labelsFree_of_all hlabels
  have hid : ServedThrough data stop stop.stopId := servedThrough_own (serves_of_isEmpty hown)
  have hfits := lists_iff_entriesFit hfree hid (notesFree_of_all hnotes)
  exact ⟨hload, hfree, stop, hstop, fun hlists => absurd (hfits.mp hlists).keys (Nat.not_le_of_lt hkeys)⟩

end Transit
