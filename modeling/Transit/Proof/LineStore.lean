import Transit.Proof.Buffers
import Transit.Proof.CsvSheets
import Transit.Proof.LoadSuccess
import Transit.Proof.Numbers
import Transit.Proof.PathSearch
import Transit.Proof.Trimming

/-!
# The store of one line

`lineFiles n` are CSV files of one bus line with the stops `0`, `1` up to
`n - 1`, and of one subway station. They load without an error
(`dataLoaderLoad_line`), and every link between two nodes of their store joins
neighbours on the line (`lineContribution`).
-/

namespace Transit

open Framework (intercalate_cons_eq_flatMap Walk)

/-- The files of a line with `n` stops, all of one name. -/
def lineFiles (n : Nat) (name : Str) : CsvFiles where
  busStops := some (csvText ([utf8 "stop_id", utf8 "stop_name"] ::
    (List.range n).map fun i => [fmtNat i, name]))
  busRoutes := some (csvText [[utf8 "route_no", utf8 "start_stop_id", utf8 "end_stop_id"],
    [utf8 "R", utf8 "0", utf8 "1"]])
  routeStops := some (csvText ([utf8 "route_no", utf8 "seq", utf8 "stop_id"] ::
    (List.range n).map fun i => [utf8 "R", utf8 "1", fmtNat i]))
  subwayStations := some (csvText [[utf8 "station_id", utf8 "station_name", utf8 "line_no"],
    [utf8 "T", utf8 "T", utf8 "2"]])
  subwayDistances := some (csvText [[utf8 "from_station_id", utf8 "to_station_id", utf8 "distance_km"],
    [utf8 "T", utf8 "T", utf8 "1"]])
  facilities := some (csvText [[utf8 "facility_id", utf8 "name", utf8 "category", utf8 "nearest_node_id"]])
  arrivalTest := some (csvText
    [[utf8 "route_no", utf8 "node_id", utf8 "time_slot", utf8 "arrival_minutes", utf8 "status"]])
  crowdingTest := some (csvText
    [[utf8 "route_no", utf8 "node_id", utf8 "time_slot", utf8 "crowding_level"]])

def lineStop (name : Str) (i : Nat) : StopNode ℚ where
  stopId := .copy _ (fmtNat i)
  stopName := .copy _ name
  lat := zero
  lng := zero
  district := .copy _ []

def lineRouteStop (i : Nat) : RouteStopNode where
  routeNo := .copy _ (utf8 "R")
  seq := 1
  stopId := .copy _ (fmtNat i)
  direction := .copy _ []

/-- The line, with its first `n` stops. -/
def lineRoute (n : Nat) : RouteNode where
  routeNo := .copy _ (utf8 "R")
  routeName := .copy _ []
  startStopId := .copy _ (utf8 "0")
  endStopId := .copy _ (utf8 "1")
  intervalMin := 0
  stops := (List.range n).map lineRouteStop

def lineStation : StationNode ℚ where
  stationId := .copy _ (utf8 "T")
  stationName := .copy _ (utf8 "T")
  lineNo := .copy _ (utf8 "2")
  lat := zero
  lng := zero
  address := .copy _ []
  transferLines := .copy _ []

def lineDistance : SubwayDistanceNode ℚ where
  fromStationId := .copy _ (utf8 "T")
  toStationId := .copy _ (utf8 "T")
  lineNo := .copy _ (utf8 "2")
  distanceKm := parseDoubleOrZero (utf8 "1")
  estimatedMinutes := subwayMinutesFromDistance (parseDoubleOrZero (utf8 "1") : ℚ)

/-- The store before the stops of the route are read. -/
def lineBase (n : Nat) (name : Str) : AppData ℚ :=
  { appDataInit with
    stops := ((List.range n).map (lineStop name)).reverse
    routes := [lineRoute 0]
    stations := [lineStation] }

/-- A name that the stops of a line can have. -/
structure LineName (name : Str) : Prop where
  field : CsvField name
  fits : name.length ≤ maxNameLen - 1
  proper : isPlaceholderStopName name = false

/-! ## Ids -/

theorem fmtNat_injective {i j : Nat} (h : fmtNat i = fmtNat j) : i = j := by
  have hd := congrArg decimal h
  rw [decimal_fmtNat, decimal_fmtNat] at hd
  exact Int.ofNat_inj.mp hd

theorem csvField_fmtNat {i : Nat} (h : i < 1000) : CsvField (fmtNat i) := by
  refine csvField_of_letters (List.all_eq_true.mpr fun b hb => ?_)
    (Nat.lt_of_le_of_lt (length_fmtNat (k := 3) (by decide) h) (by decide))
  have hd := isdigit_fmtNat i b hb
  simp only [isdigit, Bool.and_eq_true, decide_eq_true_eq, UInt8.le_iff_toNat_le, UInt8.reduceToNat] at hd
  simp only [Bool.and_eq_true, decide_eq_true_eq, UInt8.le_iff_toNat_le, UInt8.reduceToNat]
  omega

theorem copy_fmtNat {i : Nat} (h : i < 1000) : (CStr.copy maxIdLen (fmtNat i)).val = fmtNat i :=
  CStr.copy_of_le (Nat.le_trans (length_fmtNat (k := 3) (by decide) h) (by decide))

theorem not_blank_fmtNat (i : Nat) : strIsBlank (fmtNat i) = false := by
  obtain ⟨b, rest, hb⟩ := List.exists_cons_of_ne_nil (fmtNat_ne_nil i)
  have hspace := (digit_spec (isdigit_fmtNat i b (by rw [hb]; exact List.mem_cons_self ..))).1
  unfold strIsBlank
  rw [hb, List.all_cons, hspace, Bool.false_and]

/-! ## Records -/

theorem column_eq {header : List Str} {name : Str} {k : Nat} (h : csvFindHeader ⟨header⟩ name = k)
    (row : List Str) : column ⟨header⟩ ⟨row⟩ name = (row[k]?).getD [] := by
  rw [column, h, csvGet, if_neg (by omega), Int.toNat_natCast]

theorem column_nil {header : List Str} {name : Str} (h : csvFindHeader ⟨header⟩ name = -1) (row : List Str) :
    column ⟨header⟩ ⟨row⟩ name = [] := by
  rw [column, h, csvGet, if_pos (by decide)]

/-- The records of a file written from rows. -/
theorem csvRecords_csvText {α : Type} {header : List Str} {rows : List (List Str)} (hheader : CsvLine header)
    (hrows : ∀ r ∈ rows, CsvLine r) {required : List Str}
    (hreq : (required.all fun name => csvFindHeader ⟨header⟩ name ≥ 0) = true)
    (record : CsvRow → CsvRow → Option α) : csvRecords (some (csvText (header :: rows))) required record =
      rows.filterMap fun r => record ⟨header⟩ ⟨r⟩ := by
  rw [csvRecords, csvTable_csvText hheader hrows hreq]
  exact List.filterMap_map

/-- The same for rows made from numbers, each of which gives a record. -/
theorem csvRecords_range {α : Type} {header : List Str} {row : Nat → List Str} {n : Nat}
    (hheader : CsvLine header) (hrow : ∀ i < n, CsvLine (row i)) {required : List Str}
    (hreq : (required.all fun name => csvFindHeader ⟨header⟩ name ≥ 0) = true)
    {record : CsvRow → CsvRow → Option α} {x : Nat → α} (hx : ∀ i < n, record ⟨header⟩ ⟨row i⟩ = some (x i)) :
    csvRecords (some (csvText (header :: (List.range n).map row))) required record = (List.range n).map x := by
  rw [csvRecords_csvText hheader ?_ hreq, List.filterMap_map, ← List.filterMap_eq_map]
  · exact List.filterMap_congr fun i hi => hx i (List.mem_range.mp hi)
  · intro r hr
    obtain ⟨i, hi, rfl⟩ := List.mem_map.mp hr
    exact hrow i (List.mem_range.mp hi)

section

variable {n : Nat} {name : Str} (hn : n ≤ 1000)
include hn

theorem busStopsRead_line (hname : LineName name) :
    busStopsRead (lineFiles n name) = (List.range n).map (lineStop name) := by
  refine csvRecords_range (csvLine_of_letters (by decide) (by simp) (by decide) (by decide)) (fun i hi => ?_)
    (by decide) (fun i hi => ?_)
  · have hl := length_fmtNat (k := 3) (by decide) (show i < 10 ^ 3 by omega)
    have hfit : name.length ≤ 99 := hname.fits
    refine ⟨?_, List.cons_ne_nil _ _, by show 2 ≤ 32; decide, ?_⟩
    · simp only [List.forall_mem_cons]
      exact ⟨csvField_fmtNat (by omega), hname.field, List.forall_mem_nil _⟩
    · rw [csvLine, intercalate_cons_eq_flatMap]
      simp only [List.flatMap_cons, List.flatMap_nil, List.append_nil, List.length_append, List.length_cons,
        List.length_nil]
      omega
  · have hcopy : (CStr.copy maxNameLen name).val = name := CStr.copy_of_le hname.fits
    unfold busStopOf
    rw [column_eq (k := 0) (by decide), column_eq (k := 1) (by decide), column_nil (by decide),
      column_nil (by decide), column_nil (by decide)]
    simp only [List.getElem?_cons_zero, List.getElem?_cons_succ, Option.getD_some, not_blank_fmtNat, hcopy,
      hname.proper, Bool.false_eq_true, ↓reduceIte]
    rfl

omit hn in
theorem busRoutesRead_line : busRoutesRead (lineFiles n name) = [lineRoute 0] := by
  unfold busRoutesRead lineFiles
  rw [csvRecords_csvText (csvLine_of_letters (by decide) (by simp) (by decide) (by decide))
    (List.forall_mem_singleton.mpr (csvLine_of_letters (by decide) (by simp) (by decide) (by decide))) (by decide)]
  rfl

omit hn in
theorem subwayStationsRead_line : subwayStationsRead (lineFiles n name) = [lineStation] := by
  unfold subwayStationsRead lineFiles
  rw [csvRecords_csvText (csvLine_of_letters (by decide) (by simp) (by decide) (by decide))
    (List.forall_mem_singleton.mpr (csvLine_of_letters (by decide) (by simp) (by decide) (by decide))) (by decide)]
  rfl

theorem networkBase_line (hname : LineName name) : networkBase (lineFiles n name) = lineBase n name := by
  have hids : ∀ i < n, (lineStop name i).stopId.val = fmtNat i := fun i hi => copy_fmtNat (by omega)
  have hnodup :
      ((((List.range n).map (lineStop name)).reverse ++ []).map fun s : StopNode ℚ => s.stopId.val).Nodup := by
    rw [List.append_nil, List.map_reverse, List.nodup_reverse, List.map_map]
    refine List.Nodup.map_on (fun i hi j hj hij => ?_) List.nodup_range
    rw [List.mem_range] at hi hj
    exact fmtNat_injective ((hids i hi).symm.trans (hij.trans (hids j hj)))
  unfold networkBase
  rw [busStopsRead_line hn hname, busRoutesRead_line, subwayStationsRead_line,
    Framework.foldl_addNew_of_nodup _ hnodup, List.append_nil]
  rfl

theorem routeStopsAccepted_line (hname : LineName name) :
    routeStopsAccepted (lineFiles n name) (networkBase (lineFiles n name) : AppData ℚ) =
      (List.range n).map lineRouteStop := by
  rw [networkBase_line hn hname]
  refine csvRecords_range (csvLine_of_letters (by decide) (by simp) (by decide) (by decide)) (fun i hi => ?_)
    (by decide) (fun i hi => ?_)
  · have hl := length_fmtNat (k := 3) (by decide) (show i < 10 ^ 3 by omega)
    refine ⟨?_, List.cons_ne_nil _ _, by show 3 ≤ 32; decide, ?_⟩
    · simp only [List.forall_mem_cons]
      exact ⟨csvField_of_letters (by decide) (by decide), csvField_of_letters (by decide) (by decide),
        csvField_fmtNat (by omega), List.forall_mem_nil _⟩
    · rw [csvLine, intercalate_cons_eq_flatMap]
      simp only [List.flatMap_cons, List.flatMap_nil, List.append_nil, List.length_append, List.length_cons,
        List.length_nil]
      have hR : (utf8 "R").length = 1 := by decide
      have h1 : (utf8 "1").length = 1 := by decide
      omega
  · have hroute : (findRouteByNo (lineBase n name) (utf8 "R")).isNone = false := rfl
    have hstop : (findStopById (lineBase n name) (fmtNat i)).isNone = false := by
      unfold findStopById
      rw [Option.isNone_eq_false_iff, List.find?_isSome]
      refine ⟨lineStop name i, List.mem_reverse.mpr (List.mem_map_of_mem (List.mem_range.mpr hi)), ?_⟩
      exact beq_iff_eq.mpr (copy_fmtNat (by omega))
    unfold routeStopOf
    rw [column_eq (k := 0) (by decide), column_eq (k := 2) (by decide), column_eq (k := 1) (by decide),
      column_nil (by decide)]
    simp only [List.getElem?_cons_zero, List.getElem?_cons_succ, Option.getD_some, not_blank_fmtNat, hroute,
      hstop, show strIsBlank (utf8 "R") = false by decide, Bool.or_false, Bool.false_eq_true, ↓reduceIte]
    rfl

theorem subwayDistancesAccepted_line (hname : LineName name) :
    subwayDistancesAccepted (lineFiles n name) (networkBase (lineFiles n name) : AppData ℚ) = [lineDistance] := by
  rw [networkBase_line hn hname]
  unfold subwayDistancesAccepted lineFiles
  rw [csvRecords_csvText (csvLine_of_letters (by decide) (by simp) (by decide) (by decide))
    (List.forall_mem_singleton.mpr (csvLine_of_letters (by decide) (by simp) (by decide) (by decide))) (by decide)]
  rfl

theorem filesOk_line (hname : LineName name) (h0 : 0 < n) : FilesOk ℚ (lineFiles n name) := by
  have hne : ∀ {α : Type} (f : Nat → α), (List.range n).map f ≠ [] := by
    intro α f h
    rw [List.map_eq_nil_iff, List.range_eq_nil] at h
    omega
  refine ⟨?_, ?_, ?_, ?_, ?_, ?_, ?_, ?_⟩
  · rw [busStopsRead_line hn hname]
    exact hne _
  · rw [busRoutesRead_line]
    exact List.cons_ne_nil _ _
  · rw [routeStopsAccepted_line hn hname]
    exact hne _
  · rw [subwayStationsRead_line]
    exact List.cons_ne_nil _ _
  · rw [subwayDistancesAccepted_line hn hname]
    exact List.cons_ne_nil _ _
  all_goals
    unfold lineFiles
    rw [csvTable_csvText (csvLine_of_letters (by decide) (by simp) (by decide) (by decide))
      (List.forall_mem_nil _) (by decide)]
    rfl

/-- The files load. -/
theorem dataLoaderLoad_line (hname : LineName name) (h0 : 0 < n) :
    (dataLoaderLoad (lineFiles n name) : AppData ℚ × Bool).2 = true :=
  dataLoaderLoad_ok (filesOk_line hn hname h0)

omit hn in
/-- The stops have one number in `seq`, so they stay in order. -/
theorem fillRoute_line : fillRoute ((List.range n).map lineRouteStop) (lineRoute 0) = lineRoute n := by
  have hall : ((List.range n).map lineRouteStop).filter (·.routeNo.val == (lineRoute 0).routeNo.val) =
      (List.range n).map lineRouteStop := by
    refine List.filter_eq_self.mpr fun rs hrs => ?_
    obtain ⟨i, -, rfl⟩ := List.mem_map.mp hrs
    exact beq_self_eq_true _
  have hsort : ((List.range n).map lineRouteStop).mergeSort (fun a b => decide (a.seq ≤ b.seq)) =
      (List.range n).map lineRouteStop := by
    refine List.mergeSort_of_pairwise (List.pairwise_of_forall_mem_list fun a ha b hb => ?_)
    obtain ⟨i, -, rfl⟩ := List.mem_map.mp ha
    obtain ⟨j, -, rfl⟩ := List.mem_map.mp hb
    exact decide_eq_true le_rfl
  rw [fillRoute_eq, hall, show (lineRoute 0).stops = [] from rfl, Framework.foldl_insertBehind, hsort]
  rfl

/-- The store loaded, apart from its graph. -/
theorem dataLoaderLoad_line_records (hname : LineName name) :
    ∃ g, (loadedData (lineFiles n name) : AppData ℚ) = { lineBase n name with
      routes := [lineRoute n]
      subwayDistances := [lineDistance]
      graph := g } := by
  obtain ⟨g, hg⟩ := dataLoaderLoad_records (D := ℚ) (lineFiles n name)
  have hempty : (facilitiesRead (lineFiles n name) : List (FacilityNode ℚ)) = [] ∧
      arrivalsRead (lineFiles n name) = [] ∧ crowdingsRead (lineFiles n name) = [] := by
    refine ⟨?_, ?_, ?_⟩
    all_goals
      exact csvRecords_csvText (csvLine_of_letters (by decide) (by simp) (by decide) (by decide))
        (List.forall_mem_nil _) (by decide) _
  have hrouteStops := routeStopsAccepted_line hn hname
  have hdistances := subwayDistancesAccepted_line hn hname
  rw [networkBase_line hn hname] at hrouteStops hdistances
  refine ⟨g, ?_⟩
  rw [loadedData, hg, recordsOf]
  simp only [networkBase_line hn hname, hempty, hrouteStops, hdistances]
  simp only [lineBase, List.map_cons, List.map_nil, fillRoute_line]
  rfl

end

/-! ## The graph -/

section

variable {n : Nat} {name : Str} {data : AppData ℚ} {g : TransferGraph ℚ}

/-- What the rules of the loader join are neighbours on the line, and the station with itself. -/
theorem mem_contributions_line (hn : n ≤ 1000) (hdata : ∃ g, data = { lineBase n name with
      routes := [lineRoute n]
      subwayDistances := [lineDistance]
      graph := g }) {x y : Str} (hxy : x ≠ y) {c : Contribution} :
    c ∈ contributions data ∧ c.joins x y = true ↔
      c.joins x y = true ∧ ∃ k, k + 1 < n ∧ c = ⟨fmtNat k, fmtNat (k + 1), 5, utf8 "R"⟩ := by
  obtain ⟨g, rfl⟩ := hdata
  have hroute : routeContributions (lineRoute n) =
      (List.range (n - 1)).map fun k => ⟨fmtNat k, fmtNat (k + 1), 5, utf8 "R"⟩ := by
    unfold routeContributions
    refine List.ext_getElem (by simp [lineRoute]) fun k hk hk' => ?_
    simp only [List.length_map, List.length_range] at hk'
    have hcopy := copy_fmtNat (show k < 1000 by omega)
    have hcopy' := copy_fmtNat (show k + 1 < 1000 by omega)
    simp only [lineRoute, List.getElem_zipWith, List.getElem_tail, List.getElem_map, List.getElem_range,
      lineRouteStop, hcopy, hcopy']
    rfl
  have hstops : ∀ stop ∈ (lineBase n name).stops, stopContributions [lineStation] stop = [] := by
    intro stop hstop
    obtain ⟨k, -, rfl⟩ := List.mem_map.mp (List.mem_reverse.mp hstop)
    exact if_pos (show (!hasCoordinates (zero : ℚ) zero) = true by simp [hasCoordinates, CDouble.eq])
  have hflat : (lineBase n name).stops.flatMap (stopContributions [lineStation]) = [] :=
    List.flatMap_eq_nil_iff.mpr hstops
  have hall : contributions { lineBase n name with
      routes := [lineRoute n]
      subwayDistances := [lineDistance]
      graph := g } = routeContributions (lineRoute n) ++ [distanceContribution lineDistance] := by
    unfold contributions contributionsBy
    simp only [show (lineBase n name).stations = [lineStation] from rfl, hflat]
    simp [sharedLineContributions]
  have hself : (distanceContribution lineDistance).joins x y = false := by
    rw [Bool.eq_false_iff]
    intro hjoin
    rcases joins_iff.mp hjoin with ⟨hx, hy⟩ | ⟨hy, hx⟩
    · exact hxy (hx.symm.trans hy)
    · exact hxy (hx.symm.trans hy)
  rw [hall, hroute, List.mem_append, List.mem_map, List.mem_singleton]
  constructor
  · rintro ⟨⟨k, hk, rfl⟩ | rfl, hjoin⟩
    · rw [List.mem_range] at hk
      exact ⟨hjoin, k, by omega, rfl⟩
    · rw [hself] at hjoin
      cases hjoin
  · rintro ⟨hjoin, k, hk, rfl⟩
    exact ⟨.inl ⟨k, List.mem_range.mpr (by omega), rfl⟩, hjoin⟩

theorem joins_neighbours {k : Nat} {x y : Str} (hx : x = fmtNat k ∧ y = fmtNat (k + 1) ∨
    x = fmtNat (k + 1) ∧ y = fmtNat k) : Contribution.joins ⟨fmtNat k, fmtNat (k + 1), 5, utf8 "R"⟩ x y = true := by
  rcases hx with ⟨rfl, rfl⟩ | ⟨rfl, rfl⟩
  · exact joins_iff.mpr (.inl ⟨rfl, rfl⟩)
  · exact joins_iff.mpr (.inr ⟨rfl, rfl⟩)

end

/-- The graph of a line: an edge of five minutes between every two neighbours. -/
structure LineGraph (n : Nat) (g : TransferGraph ℚ) : Prop where
  ok : GraphOk g
  nodup : g.ids.Nodup
  node : ∀ k < n, fmtNat k ∈ g.ids
  edge : ∀ {u v x y c}, g.ids[u]? = some x → g.ids[v]? = some y → (g.Edge u v c ↔ c = 5 ∧
    ∃ k, k + 1 < n ∧ (x = fmtNat k ∧ y = fmtNat (k + 1) ∨ x = fmtNat (k + 1) ∧ y = fmtNat k))

theorem lineGraph_loaded {n : Nat} {name : Str} (hn : n ≤ 1000) (hname : LineName name) :
    LineGraph n (loadedData (lineFiles n name) : AppData ℚ).graph := by
  have hmerge : MinMerge (loadedData (lineFiles n name) : AppData ℚ) _
      (loadedData (lineFiles n name) : AppData ℚ).graph :=
    dataLoaderLoad_minMerge (lineFiles n name)
  have hok := graphOk_loadedData (D := ℚ) (lineFiles n name)
  have hdata := dataLoaderLoad_line_records hn hname
  refine ⟨hok, hmerge.ids_nodup, fun k hk => ?_, fun {u v x y c} hx hy => ?_⟩
  · refine (hmerge.mem_ids _).mpr (.inl ⟨lineStop name k, ?_, copy_fmtNat (by omega)⟩)
    obtain ⟨g, hg⟩ := hdata
    rw [hg]
    exact List.mem_reverse.mpr (List.mem_map_of_mem (List.mem_range.mpr hk))
  · by_cases huv : u = v
    · subst huv
      refine iff_of_false (fun ⟨e, he, hto, _⟩ => (hok.edges u).noLoop e he hto) ?_
      rintro ⟨-, k, -, ⟨rfl, hk⟩ | ⟨rfl, hk⟩⟩ <;>
        exact absurd (fmtNat_injective ((Option.some_inj.mp (hx.symm.trans hy)).trans hk)) (by omega)
    · have hxy : x ≠ y := by
        rintro rfl
        exact huv (index_unique hmerge.ids_nodup hx hy)
      have hedge : (∃ e ∈ (loadedData (lineFiles n name) : AppData ℚ).graph.edgesAt u, e.toIndex = v) ↔
          ∃ k, k + 1 < n ∧ (x = fmtNat k ∧ y = fmtNat (k + 1) ∨ x = fmtNat (k + 1) ∧ y = fmtNat k) := by
        rw [hmerge.edge_iff huv hx hy]
        constructor
        · rintro ⟨c, hc, hjoin⟩
          obtain ⟨-, k, hk, rfl⟩ := (mem_contributions_line hn hdata hxy).mp ⟨hc, hjoin⟩
          refine ⟨k, hk, ?_⟩
          rcases joins_iff.mp hjoin with ⟨h1, h2⟩ | ⟨h1, h2⟩
          · exact .inl ⟨h1.symm, h2.symm⟩
          · exact .inr ⟨h2.symm, h1.symm⟩
        · rintro ⟨k, hk, hjoin⟩
          exact ⟨_, (mem_contributions_line hn hdata hxy).mpr ⟨joins_neighbours hjoin, k, hk, rfl⟩⟩
      constructor
      · rintro ⟨e, he, hto, rfl⟩
        obtain ⟨c, hc, hw, -⟩ := hmerge.edge_least huv hx hy e he hto
        have hmem := List.mem_filter.mp (List.argmin_mem hc)
        obtain ⟨-, k, -, rfl⟩ := (mem_contributions_line hn hdata hxy).mp hmem
        exact ⟨hw, hedge.mp ⟨e, he, hto⟩⟩
      · rintro ⟨rfl, hk⟩
        obtain ⟨e, he, hto⟩ := hedge.mpr hk
        obtain ⟨c, hc, hw, -⟩ := hmerge.edge_least huv hx hy e he hto
        have hmem := List.mem_filter.mp (List.argmin_mem hc)
        obtain ⟨-, k, -, rfl⟩ := (mem_contributions_line hn hdata hxy).mp hmem
        exact ⟨e, he, hto, hw⟩

section

variable {n : Nat} {g : TransferGraph ℚ} (h : LineGraph n g) {a : Nat} (ha : g.ids[a]? = some (fmtNat 0))
include h ha

/-- It takes a step to come one stop further. -/
theorem LineGraph.walk_length (h0 : 0 < n) {u : Nat} {l : List Nat} {w : Int} (hw : Walk g.Edge a u l w) :
    ∃ k < n, g.ids[u]? = some (fmtNat k) ∧ k + 1 ≤ l.length := by
  induction hw with
  | source => exact ⟨0, h0, ha, le_rfl⟩
  | @step u v l w c _ he ih =>
    obtain ⟨k, hk, hu, hlen⟩ := ih
    have hlt : v < g.ids.length := by
      rw [ids_length]
      exact h.ok.edge_lt he
    obtain ⟨-, j, hj, hjoin⟩ := (h.edge hu (List.getElem?_eq_getElem hlt)).mp he
    rw [List.length_append, List.length_singleton]
    rcases hjoin with ⟨hkj, hv⟩ | ⟨hkj, hv⟩
    · have hkj := fmtNat_injective hkj
      exact ⟨j + 1, hj, (List.getElem?_eq_getElem hlt).trans (congrArg some hv), by omega⟩
    · have hkj := fmtNat_injective hkj
      exact ⟨j, by omega, (List.getElem?_eq_getElem hlt).trans (congrArg some hv), by omega⟩

/-- The way along the line. -/
theorem LineGraph.exists_walk {k : Nat} (hk : k < n) {u : Nat} (hu : g.ids[u]? = some (fmtNat k)) :
    ∃ l, Walk g.Edge a u l (5 * k) := by
  induction k generalizing u with
  | zero =>
    obtain rfl := index_unique h.nodup ha hu
    exact ⟨[a], .source⟩
  | succ k ih =>
    obtain ⟨p, hp⟩ := List.mem_iff_getElem?.mp (h.node k (by omega))
    obtain ⟨l, hl⟩ := ih (by omega) hp
    have hedge : g.Edge p u 5 := (h.edge hp hu).mpr ⟨rfl, k, hk, .inl ⟨rfl, rfl⟩⟩
    have hw : (5 * (k + 1 : Nat) : Int) = 5 * k + 5 := by omega
    exact ⟨l ++ [u], hw ▸ hl.step hedge⟩

/-- A shortest way is no longer than the one along the line. -/
theorem LineGraph.least_le (h0 : 0 < n) {u : Nat} {l : List Nat} {w : Int} (hw : Walk g.Edge a u l w)
    (hmin : ∀ l' w', Walk g.Edge a u l' w' → w ≤ w') : w ≤ 5 * n := by
  obtain ⟨k, hk, hu, -⟩ := h.walk_length ha h0 hw
  obtain ⟨l', hl'⟩ := h.exists_walk ha hk hu
  have hle := hmin l' _ hl'
  omega

end

end Transit
