import Transit.Proof.PathLength

/-!
# When `graph_find_path` adds without overflow

The search adds the distance of a node it has visited and the weight of an edge
out of it. Distances stay below `INT_MAX / 4`, but a row of the subway
distances can give an edge any weight up to `INT_MAX`. The nodes whose edges
are looked at are those nearer than the target (`Expanded`).

* `graphFindPath_noOverflow_iff`: no sum overflows, and so the total is the sum
  of the segments, exactly when every edge out of such a node has room;
* `graphFindPath_overflow`: two rows of minutes that leave no room.
-/

namespace Transit

open Framework

variable {D : Type}

/-- The sums that `graph_find_path` computes, apart from its loop counters, which
stay below `node_count` and `MAX_GRAPH_PATH`: none without memory for its arrays. -/
def pathSums (mem : Bool) (g : TransferGraph D) (a b : Nat) : List Int :=
  if mem then searchSums g b (g.nodeCount + 1) (searchInit a) else []

/-- A node that the search for `b` from `a` leaves by its edges, at its distance `w`. -/
structure Expanded (g : TransferGraph D) (a b u : Nat) (w : Int) : Prop where
  walk : ∃ l, Walk g.Edge a u l w
  least : ∀ l' w', Walk g.Edge a u l' w' → w ≤ w'
  below : w < inf
  before : ∀ l' w', Walk g.Edge a b l' w' → w < w' ∨ (w = w' ∧ u < b)

theorem isInt32_iff_toInt32 (x : Int) : IsInt32 x ↔ toInt32 x = x := by
  simp only [IsInt32, toInt32, Int.bmod_def]
  omega

section

variable {g : TransferGraph D} {a b cur : Nat} {d : Int} {s : Search}

/-- A node about to be left comes before the target. -/
theorem SearchInv.expanded (h : SearchInv g a d s) (hg : GraphOk g) (ha : a < g.nodeCount)
    (hb : s.visited b = false) (hn : nearest g.nodeCount s = some cur) (hcb : cur ≠ b) :
    Expanded g a b cur (s.dist cur) := by
  obtain ⟨-, -, hi, hmin⟩ := h.nearest_some hg ha hn
  obtain ⟨l, hl, hleast⟩ := h.shortest hg hi fun y hy => (hmin y hy).le
  refine ⟨⟨l, hl⟩, hleast, hi, fun l' w' hw' => ?_⟩
  have hunb : ¬ s.visited b = true := by simp [hb]
  rcases h.walk_bound hg.edge_zero_lt hw' with hle | ⟨y, hy, hyw⟩
  · change s.dist b ≤ w' at hle
    rcases hmin b hunb with hlt | ⟨heq, hle'⟩
    · omega
    · have hne : cur < b := Nat.lt_of_le_of_ne hle' hcb
      omega
  · change s.dist y < w' at hyw
    have hyd := (hmin y hy).le
    omega

/-- At its end the search has left all nodes that come before the target. -/
theorem SearchEnd.visited_of_expanded {found : Bool} (hend : SearchEnd g a b found s) (hg : GraphOk g)
    (ha : a < g.nodeCount) {u : Nat} {w : Int} (hu : Expanded g a b u w) : s.visited u = true := by
  obtain ⟨d, hinv⟩ := hend.inv
  by_contra hvis
  obtain ⟨l, hl⟩ := hu.walk
  have hbelow := hu.below
  -- the walk to `u` bounds the distance of a node that is still to visit
  obtain ⟨y, hy, hyw⟩ : ∃ y, ¬ s.visited y = true ∧ (s.dist y < w ∨ y = u ∧ s.dist y ≤ w) := by
    rcases hinv.walk_bound hg.edge_zero_lt hl with hle | ⟨y, hy, hlt⟩
    · exact ⟨u, hvis, .inr ⟨rfl, hle⟩⟩
    · exact ⟨y, hy, .inl hlt⟩
  cases found with
  | false =>
    have hinf := hinv.nearest_none hg ha hend.nearest y hy
    omega
  | true =>
    obtain ⟨-, -, hi, hmin⟩ := hinv.nearest_some hg ha (show Transit.nearest _ s = some b from hend.nearest)
    obtain ⟨lb, hlb, -⟩ := hinv.chain b hi
    have hbefore : w < s.dist b ∨ (w = s.dist b ∧ u < b) := hu.before lb _ hlb.walk
    rcases hmin y hy with hlt | ⟨heq, hle⟩
    · omega
    · omega

/-- No sum leaves the range of `int` exactly when the edges out of the nodes
before the target have room. -/
theorem pathSums_isInt32_iff (hg : GraphOk g) (ha : a < g.nodeCount) (hb : b < g.nodeCount) :
    (∀ x ∈ pathSums true g a b, IsInt32 x) ↔
      ∀ u w, Expanded g a b u w → ∀ v c, g.Edge u v c → w + c ≤ intMax := by
  have hmax : intMax = 2 ^ 31 - 1 := rfl
  constructor
  · intro hsums u w hu v c he
    have hexact : SumsExact g a b := fun x hx => (isInt32_iff_toInt32 x).mp (hsums x hx)
    obtain ⟨found, s, hend, hdone, -⟩ := graphFindPath_end ha hb hg hexact
    have hvis := hend.visited_of_expanded hg ha hu
    obtain ⟨d, hinv⟩ := hend.inv
    obtain ⟨l, hl, hleast⟩ := hinv.shortest hg (hinv.reached u hvis) (hinv.near_of_visited hvis)
    obtain ⟨l', hl'⟩ := hu.walk
    have hw : s.dist u = w := Int.le_antisymm (hleast _ _ hl') (hu.least _ _ hl)
    obtain ⟨e, hedge, rfl, rfl⟩ := he
    have hsum := hsums _ (hdone u hvis e hedge)
    rw [hw] at hsum
    unfold IsInt32 at hsum
    omega
  · intro hroom
    refine searchSums_forall hg ha (fun x hx => (isInt32_iff_toInt32 x).mp hx)
      (fun d s cur h hvb hn hcb e he => ?_) (searchInv_init g a) rfl
    have hexp := h.expanded hg ha hvb hn hcb
    have hedge : g.Edge cur e.toIndex e.weightMin := ⟨e, he, rfl, rfl⟩
    have hle := hroom cur _ hexp _ _ hedge
    have hpos := hg.edge_pos _ _ _ hedge
    have hnonneg := h.dist_nonneg hg hexp.below
    unfold IsInt32
    omega

/-- With exact sums the total is that of the segments. -/
theorem totalMinutes_of_sumsExact (hg : GraphOk g) (ha : a < g.nodeCount) (hb : b < g.nodeCount)
    (hexact : SumsExact g a b) {path : GraphPath} (hp : graphFindPath true g a b = some path) :
    path.totalMinutes = path.segmentMinutes.sum ∧ 0 ≤ path.totalMinutes := by
  obtain ⟨found, s, -, -, hnone, hsome⟩ := graphFindPath_end ha hb hg hexact
  cases found with
  | false =>
    rw [hnone rfl] at hp
    cases hp
  | true =>
    obtain ⟨l, hl, hfirst, hpath⟩ := hsome rfl
    rw [hpath] at hp
    by_cases hfit : l.length ≤ maxGraphPath
    · rw [if_pos hfit] at hp
      cases hp
      have hshort := shortestPath_of_chain hg hl hfit fun l' w' => hfirst.minimal hg.edge_nonneg
      exact ⟨hshort.total.symm, hl.walk.weight_nonneg hg.edge_nonneg⟩
    · rw [if_neg hfit] at hp
      cases hp

end

/-- In the graph of any files, the search between two nodes adds without
overflow, and finds a total that is the sum of its segments, exactly when the
edges out of the nodes it leaves have room up to `INT_MAX`. -/
theorem graphFindPath_noOverflow_iff [CDouble D] (files : CsvFiles) (mem : Bool) {a b : Nat}
    (ha : a < (loadedData files : AppData D).graph.nodeCount)
    (hb : b < (loadedData files : AppData D).graph.nodeCount) :
    ((∀ x ∈ pathSums mem (loadedData files : AppData D).graph a b, IsInt32 x) ∧
      ∀ path, graphFindPath mem (loadedData files : AppData D).graph a b = some path →
        path.totalMinutes = path.segmentMinutes.sum ∧ 0 ≤ path.totalMinutes) ↔
    (mem = true → ∀ u w, Expanded (loadedData files : AppData D).graph a b u w →
      ∀ v c, (loadedData files : AppData D).graph.Edge u v c → w + c ≤ intMax) := by
  have hg := graphOk_loadedData (D := D) files
  generalize (loadedData files : AppData D).graph = g at ha hb hg ⊢
  cases mem with
  | false =>
    refine iff_of_true ⟨List.forall_mem_nil _, fun path hp => ?_⟩ (fun h => by cases h)
    rw [graphFindPath_eq ha hb] at hp
    cases hp
  | true =>
    rw [pathSums_isInt32_iff hg ha hb]
    refine ⟨fun h _ => h.1, fun h => ⟨h rfl, fun path hp => ?_⟩⟩
    have hsums := (pathSums_isInt32_iff hg ha hb).mpr (h rfl)
    exact totalMinutes_of_sumsExact hg ha hb (fun x hx => (isInt32_iff_toInt32 x).mp (hsums x hx)) hp

/-- Three stations in a row, the second ride taking `INT_MAX` minutes. -/
def longRideFiles : CsvFiles where
  busStops := some (utf8 "stop_id,stop_name\nS,S\n")
  busRoutes := some (utf8 "route_no,start_stop_id,end_stop_id\n1,S,S\n")
  routeStops := some (utf8 "route_no,seq,stop_id\n1,1,S\n")
  subwayStations := some (utf8 "station_id,station_name,line_no\nA,A,2\nB,B,2\nC,C,2\n")
  subwayDistances := some
    (utf8 "from_station_id,to_station_id,distance_km,estimated_minutes\nA,B,,1\nB,C,,2147483647\n")
  facilities := some (utf8 "facility_id,name,category,nearest_node_id\n")
  arrivalTest := some (utf8 "route_no,node_id,time_slot,arrival_minutes,status\n")
  crowdingTest := some (utf8 "route_no,node_id,time_slot,crowding_level\n")

/-- From the third station back to the second one there is room. -/
theorem graphFindPath_noOverflow_longRide :
    ((∀ x ∈ pathSums true (loadedData longRideFiles : AppData ℚ).graph 1 2, IsInt32 x) ∧
      ∀ path, graphFindPath true (loadedData longRideFiles : AppData ℚ).graph (1 : Nat) (2 : Nat) = some path →
        path.totalMinutes = path.segmentMinutes.sum ∧ 0 ≤ path.totalMinutes) ↔
    (true = true → ∀ u w, Expanded (loadedData longRideFiles : AppData ℚ).graph 1 2 u w →
      ∀ v c, (loadedData longRideFiles : AppData ℚ).graph.Edge u v c → w + c ≤ intMax) :=
  graphFindPath_noOverflow_iff longRideFiles true (by decide +kernel) (by decide +kernel)

/-- From the first station to the third the sum overflows, and the total is negative. -/
theorem graphFindPath_overflow :
    (dataLoaderLoad longRideFiles : AppData ℚ × Bool).2 = true ∧
    (∃ x ∈ pathSums true (loadedData longRideFiles : AppData ℚ).graph 3 1, ¬ IsInt32 x) ∧
    (graphFindPath true (loadedData longRideFiles : AppData ℚ).graph (3 : Nat) (1 : Nat)).map
      (·.totalMinutes) = some (-2147483648) := by
  have hsum : (dataLoaderLoad longRideFiles : AppData ℚ × Bool).2 = true ∧
      2147483648 ∈ pathSums true (loadedData longRideFiles : AppData ℚ).graph 3 1 ∧
      (graphFindPath true (loadedData longRideFiles : AppData ℚ).graph (3 : Nat) (1 : Nat)).map
        (·.totalMinutes) = some (-2147483648) := by decide +kernel
  refine ⟨hsum.1, ⟨_, hsum.2.1, ?_⟩, hsum.2.2⟩
  unfold IsInt32
  omega

end Transit
