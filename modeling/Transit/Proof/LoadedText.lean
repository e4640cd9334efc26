import Transit.Common.Protocol
import Transit.Server.DataLoader
import Mathlib.Tactic.Common

/-!
# No text that the loader stores holds a line feed

`PlainData` says so of every record, and `loading_loadRecords` that the loaders
establish it: a CSV line ends at its first line feed (`plain_csvParseLine`),
and every text stored is a field of a row or a literal, possibly cut. The
arrival times are within `int`.
-/

namespace Transit

variable {D : Type}

/-- A text without the byte that ends a packet. -/
def Plain (s : Str) : Prop := packetTerm ∉ s

instance (s : Str) : Decidable (Plain s) := inferInstanceAs (Decidable (packetTerm ∉ s))

@[simp] theorem plain_nil : Plain [] := List.not_mem_nil

@[simp] theorem plain_cons {b : Byte} {s : Str} : Plain (b :: s) ↔ b ≠ packetTerm ∧ Plain s := by
  simp only [Plain, List.mem_cons, not_or, ne_comm, ne_eq]

@[simp] theorem plain_append {s t : Str} : Plain (s ++ t) ↔ Plain s ∧ Plain t := by
  simp only [Plain, List.mem_append, not_or]

theorem Plain.of_subset {s t : Str} (h : Plain t) (hst : s ⊆ t) : Plain s := fun hm => h (hst hm)

theorem Plain.snprintf {s : Str} (h : Plain s) (n : Nat) : Plain (snprintf n s) :=
  h.of_subset (List.take_subset _ _)

theorem Plain.copy {s : Str} (h : Plain s) (n : Nat) : Plain (CStr.copy n s) := h.snprintf n

theorem strTrim_subset (s : Str) : strTrim s ⊆ s := by
  have hd : s.dropWhile isspace ⊆ s := List.dropWhile_subset _
  have hbom : (if bom.isPrefixOf (s.dropWhile isspace) then (s.dropWhile isspace).drop 3
      else s.dropWhile isspace) ⊆ s := by
    split
    · exact List.Subset.trans (List.drop_subset _ _) hd
    · exact hd
  exact List.Subset.trans (List.rdropWhile_prefix _ _).subset hbom

theorem Plain.strTrim {s : Str} (h : Plain s) : Plain (strTrim s) := h.of_subset (strTrim_subset s)

/-- The values of an `int`. -/
def IsInt32 (x : Int) : Prop := -2 ^ 31 ≤ x ∧ x < 2 ^ 31

theorem isInt32_toInt32 (x : Int) : IsInt32 (toInt32 x) := by
  simp only [IsInt32, toInt32, Int.bmod_def]
  omega

theorem isInt32_parseIntOrZero (s : Str) : IsInt32 (parseIntOrZero s) := by
  simp only [parseIntOrZero]
  split
  · exact ⟨by decide, by decide⟩
  · exact isInt32_toInt32 _

/-- The records that responses are made of, and the line labels of edges. -/
structure PlainData (data : AppData D) : Prop where
  stops : ∀ s ∈ data.stops, Plain s.stopId ∧ Plain s.stopName
  routes : ∀ r ∈ data.routes, Plain r.routeNo ∧ Plain r.routeName ∧ Plain r.startStopId ∧
    Plain r.endStopId ∧ ∀ s ∈ r.stops, Plain s.stopId
  stations : ∀ s ∈ data.stations, Plain s.stationId ∧ Plain s.stationName ∧ Plain s.lineNo ∧
    Plain s.transferLines
  distances : ∀ d ∈ data.subwayDistances, Plain d.lineNo
  facilities : ∀ f ∈ data.facilities, Plain f.name ∧ Plain f.category ∧ Plain f.nearestNodeId ∧
    Plain f.address
  arrivals : ∀ a ∈ data.arrivals, Plain a.routeNo ∧ Plain a.nodeId ∧ Plain a.status ∧
    IsInt32 a.arrivalMinutes
  crowdings : ∀ c ∈ data.crowdings, Plain c.routeNo ∧ Plain c.nodeId ∧ Plain c.timeSlot ∧
    Plain c.crowdingLevel

/-- What holds of the store while the CSV files are read. -/
structure Loading (data : AppData D) : Prop where
  plain : PlainData data
  graph : data.graph = graphInit

/-! ## Rows -/

/-- A byte that ends a line is in no field of it. -/
theorem not_mem_csvLoop {b : Byte} {line : Str} (hb : b = 10 ∨ b = 13 ∨ b ∉ line) {fields : List Str}
    {cur : Str} {q : Bool}
    (hd : ∀ f ∈ fields, b ∉ f) (hc : b ∉ cur) : ∀ f ∈ csvLoop line fields cur q, b ∉ f := by
  have hclose : ∀ fields cur, (∀ f ∈ fields, b ∉ f) → b ∉ cur → ∀ f ∈ fields ++ [strTrim cur], b ∉ f := by
    intro fields cur hd hc f hf
    rcases List.mem_append.mp hf with hf | hf
    · exact hd f hf
    · rw [List.mem_singleton.mp hf]
      exact fun hm => hc (strTrim_subset cur hm)
  induction line generalizing fields cur q with
  | nil => exact hclose _ _ hd hc
  | cons c line ih =>
    simp only [csvLoop]
    split
    · exact hclose _ _ hd hc
    · rename_i hnl
      have hrest : b = 10 ∨ b = 13 ∨ b ∉ line := hb.imp_right (Or.imp_right fun h => List.not_mem_of_not_mem_cons h)
      split
      · exact ih hrest hd hc
      · split
        · split
          · exact hclose _ _ hd hc
          · exact ih hrest (hclose _ _ hd hc) List.not_mem_nil
        · split
          · have hne : b ≠ c := by
              rintro rfl
              rcases hb with hb | hb | hb
              · exact hnl (.inl hb)
              · exact hnl (.inr hb)
              · exact hb (List.mem_cons_self ..)
            refine ih hrest hd ?_
            rw [List.mem_append, List.mem_singleton, not_or]
            exact ⟨hc, hne⟩
          · exact ih hrest hd hc

theorem plain_csvLoop {line : Str} {fields : List Str} {cur : Str} {q : Bool}
    (hd : ∀ f ∈ fields, Plain f) (hc : Plain cur) : ∀ f ∈ csvLoop line fields cur q, Plain f :=
  not_mem_csvLoop (.inl rfl) hd hc

theorem plain_csvParseLine (line : Str) : ∀ f ∈ (csvParseLine line).fields, Plain f :=
  plain_csvLoop (by simp) plain_nil

theorem plain_csvGet {row : CsvRow} (h : ∀ f ∈ row.fields, Plain f) (i : Int) :
    Plain (csvGet row i) := by
  simp only [csvGet]
  split
  · exact plain_nil
  · cases hg : row.fields[i.toNat]? with
    | none => exact plain_nil
    | some f => exact h f (List.mem_of_getElem? hg)

theorem plain_column {row : CsvRow} (h : ∀ f ∈ row.fields, Plain f) (header : CsvRow) (name : Str) :
    Plain (column header row name) := plain_csvGet h _

/-! ## Loaders -/

section

variable {σ : Type} {P : σ → Prop}

/-- What every row keeps, the loop over the rows keeps. -/
theorem loadRows_keeps {row : σ → CsvRow → Option σ}
    (h : ∀ data line data', P data → row data (csvParseLine line) = some data' → P data')
    (lines : List Str) {data : σ} (hd : P data) : P (loadRows row lines data).1 := by
  induction lines generalizing data with
  | nil => exact hd
  | cons line lines ih =>
    simp only [loadRows]
    cases hr : row data (csvParseLine line) with
    | none => exact ih hd
    | some data' => exact ih (h data line data' hd hr)

theorem loadCsv_keeps {row : CsvRow → σ → CsvRow → Option σ}
    (h : ∀ header data line data', P data → row header data (csvParseLine line) = some data' → P data')
    {file : Option (List Byte)} {required : List Str} {data : σ} (hd : P data) {r : σ × Nat}
    (hr : loadCsv file required row data = some r) : P r.1 := by
  simp only [loadCsv] at hr
  cases file with
  | none => simp at hr
  | some text =>
    simp only at hr
    split at hr
    · cases hr
    · split at hr
      · simp only [Option.some.injEq] at hr
        subst hr
        exact loadRows_keeps (h _) _ hd
      · cases hr

theorem loaderResult_keeps {P : AppData D → Prop} {row : CsvRow → AppData D → CsvRow → Option (AppData D)}
    (h : ∀ header data line data', P data → row header data (csvParseLine line) = some data' → P data')
    {file : Option (List Byte)} {required : List Str} {data : AppData D} {enough : Nat → Bool}
    (hd : P data) : P (loaderResult data enough (loadCsv file required row data)).1 := by
  cases hr : loadCsv file required row data with
  | none => exact hd
  | some r => exact loadCsv_keeps h hd hr

end

variable {header : CsvRow} {data data' : AppData D} {line : Str}

theorem Loading.busRouteRow (h : Loading data)
    (hr : busRouteRow header data (csvParseLine line) = some data') : Loading data' := by
  have hcol := plain_column (plain_csvParseLine line) header
  simp only [Transit.busRouteRow] at hr
  split at hr
  · cases hr
  · split at hr
    · cases hr
      refine ⟨{ h.plain with routes := ?_ }, h.graph⟩
      simp only [routeAdd, List.mem_cons, forall_eq_or_imp]
      exact ⟨⟨(hcol _).copy _, (hcol _).copy _, (hcol _).copy _, (hcol _).copy _, by simp⟩,
        h.plain.routes⟩
    · cases hr

theorem mem_insertRouteStop {node s : RouteStopNode} {stops : List RouteStopNode} :
    s ∈ insertRouteStop node stops ↔ s = node ∨ s ∈ stops := by
  induction stops with
  | nil => simp [insertRouteStop]
  | cons cur rest ih =>
    simp only [insertRouteStop]
    split
    · simp only [List.mem_cons, ih]; tauto
    · simp only [List.mem_cons]

/-- A route after `addToRoute`: the same fields, and at most the new stop. -/
theorem mem_addToRoute {routeNo : Str} {rs : RouteStopNode} {routes : List RouteNode} {r : RouteNode}
    (h : r ∈ addToRoute routeNo rs routes) :
    ∃ r' ∈ routes, r.routeNo = r'.routeNo ∧ r.routeName = r'.routeName ∧
      r.startStopId = r'.startStopId ∧ r.endStopId = r'.endStopId ∧
      ∀ s ∈ r.stops, s = rs ∨ s ∈ r'.stops := by
  induction routes with
  | nil => cases h
  | cons route rest ih =>
    simp only [addToRoute] at h
    split at h
    · rcases List.mem_cons.mp h with rfl | h
      · exact ⟨route, List.mem_cons_self .., rfl, rfl, rfl, rfl, fun s hs => mem_insertRouteStop.mp hs⟩
      · exact ⟨r, List.mem_cons_of_mem _ h, rfl, rfl, rfl, rfl, fun s hs => .inr hs⟩
    · rcases List.mem_cons.mp h with rfl | h
      · exact ⟨r, List.mem_cons_self .., rfl, rfl, rfl, rfl, fun s hs => .inr hs⟩
      · obtain ⟨r', hr', hsame⟩ := ih h
        exact ⟨r', List.mem_cons_of_mem _ hr', hsame⟩

theorem Loading.routeStopRow (h : Loading data)
    (hr : routeStopRow header data (csvParseLine line) = some data') : Loading data' := by
  have hcol := plain_column (plain_csvParseLine line) header
  simp only [Transit.routeStopRow] at hr
  split at hr
  · cases hr
  · split at hr
    · cases hr
    · cases hr
      refine ⟨{ h.plain with routes := fun r hm => ?_ }, h.graph⟩
      obtain ⟨r', hr', h1, h2, h3, h4, hs⟩ := mem_addToRoute hm
      obtain ⟨p1, p2, p3, p4, p5⟩ := h.plain.routes r' hr'
      refine ⟨by rwa [h1], by rwa [h2], by rwa [h3], by rwa [h4], fun s hsm => ?_⟩
      rcases hs s hsm with rfl | hsm
      · exact (hcol _).copy _
      · exact p5 s hsm

theorem Loading.arrivalRow (h : Loading data)
    (hr : arrivalRow header data (csvParseLine line) = some data') : Loading data' := by
  have hcol := plain_column (plain_csvParseLine line) header
  cases hr
  refine ⟨{ h.plain with arrivals := ?_ }, h.graph⟩
  simp only [arrivalAdd, List.mem_cons, forall_eq_or_imp]
  exact ⟨⟨(hcol _).copy _, (hcol _).copy _, (hcol _).copy _, isInt32_parseIntOrZero _⟩,
    h.plain.arrivals⟩

theorem Loading.crowdingRow (h : Loading data)
    (hr : crowdingRow header data (csvParseLine line) = some data') : Loading data' := by
  have hcol := plain_column (plain_csvParseLine line) header
  cases hr
  refine ⟨{ h.plain with crowdings := ?_ }, h.graph⟩
  simp only [crowdingAdd, List.mem_cons, forall_eq_or_imp]
  exact ⟨⟨(hcol _).copy _, (hcol _).copy _, (hcol _).copy _, (hcol _).copy _⟩, h.plain.crowdings⟩

variable [CDouble D]

theorem Loading.busStopRow (h : Loading data)
    (hr : busStopRow header data (csvParseLine line) = some data') : Loading data' := by
  have hcol := plain_column (plain_csvParseLine line) header
  simp only [Transit.busStopRow] at hr
  split at hr
  · cases hr
  · split at hr
    · cases hr
      refine ⟨{ h.plain with stops := ?_ }, h.graph⟩
      simp only [stopAdd, List.mem_cons, forall_eq_or_imp]
      refine ⟨⟨(hcol _).copy _, ?_⟩, h.plain.stops⟩
      split
      · refine Plain.copy (plain_append.mpr ⟨plain_append.mpr ⟨by decide, (hcol _).copy _⟩, by decide⟩) _
      · exact (hcol _).copy _
    · cases hr

theorem Loading.subwayStationRow (h : Loading data)
    (hr : subwayStationRow header data (csvParseLine line) = some data') : Loading data' := by
  have hcol := plain_column (plain_csvParseLine line) header
  simp only [Transit.subwayStationRow] at hr
  split at hr
  · cases hr
  · split at hr
    · cases hr
      refine ⟨{ h.plain with stations := ?_ }, h.graph⟩
      simp only [stationAdd, List.mem_cons, forall_eq_or_imp]
      exact ⟨⟨(hcol _).copy _, (hcol _).copy _, (hcol _).copy _, (hcol _).copy _⟩, h.plain.stations⟩
    · cases hr

theorem Loading.subwayDistanceRow (h : Loading data)
    (hr : subwayDistanceRow header data (csvParseLine line) = some data') : Loading data' := by
  have hcol := plain_column (plain_csvParseLine line) header
  simp only [Transit.subwayDistanceRow] at hr
  split at hr
  · cases hr
  · split at hr
    · rename_i fromStation _ hfrom _
      cases hr
      refine ⟨{ h.plain with distances := ?_ }, h.graph⟩
      simp only [subwayDistanceAdd, List.mem_cons, forall_eq_or_imp]
      refine ⟨?_, h.plain.distances⟩
      split
      · exact (h.plain.stations fromStation (List.mem_of_find?_eq_some hfrom)).2.2.1
      · exact (hcol _).copy _
    · cases hr

theorem Loading.facilityRow (h : Loading data)
    (hr : facilityRow header data (csvParseLine line) = some data') : Loading data' := by
  have hcol := plain_column (plain_csvParseLine line) header
  simp only [Transit.facilityRow] at hr
  split at hr
  · cases hr
  · cases hr
    refine ⟨{ h.plain with facilities := ?_ }, h.graph⟩
    simp only [facilityAdd, List.mem_cons, forall_eq_or_imp]
    exact ⟨⟨(hcol _).copy _, (hcol _).copy _, (hcol _).copy _, (hcol _).copy _⟩, h.plain.facilities⟩

/-! ## All files -/

/-- The store when every file has been read, before the graph is built. -/
def loadRecords (files : CsvFiles) : AppData D :=
  let data := (loadBusStops files.busStops appDataInit).1
  let data := (loadBusRoutes files.busRoutes data).1
  let data := (loadRouteStops files.routeStops data).1
  let data := (loadSubwayStations files.subwayStations data).1
  let data := (loadSubwayDistances files.subwayDistances data).1
  let data := (loadFacilities files.facilities data).1
  let data := (loadArrivals files.arrivalTest data).1
  (loadCrowdings files.crowdingTest data).1

theorem dataLoaderLoad_eq (files : CsvFiles) :
    (dataLoaderLoad files).1 = (dataLoaderBuildGraph (loadRecords files : AppData D)).1 := rfl

omit [CDouble D] in
theorem loading_appDataInit : Loading (appDataInit : AppData D) :=
  ⟨⟨by simp [appDataInit], by simp [appDataInit], by simp [appDataInit], by simp [appDataInit],
    by simp [appDataInit], by simp [appDataInit], by simp [appDataInit]⟩, rfl⟩

/-- Every record loaded is plain, and the graph still empty. -/
theorem loading_loadRecords (files : CsvFiles) : Loading (loadRecords files : AppData D) := by
  exact loaderResult_keeps (fun _ _ _ _ => Loading.crowdingRow) <|
    loaderResult_keeps (fun _ _ _ _ => Loading.arrivalRow) <|
    loaderResult_keeps (fun _ _ _ _ => Loading.facilityRow) <|
    loaderResult_keeps (fun _ _ _ _ => Loading.subwayDistanceRow) <|
    loaderResult_keeps (fun _ _ _ _ => Loading.subwayStationRow) <|
    loaderResult_keeps (fun _ _ _ _ => Loading.routeStopRow) <|
    loaderResult_keeps (fun _ _ _ _ => Loading.busRouteRow) <|
    loaderResult_keeps (fun _ _ _ _ => Loading.busStopRow) loading_appDataInit

end Transit
