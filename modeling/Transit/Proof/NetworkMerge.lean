import Transit.Proof.GraphBuild
import Transit.Proof.LoadSuccess

/-!
# The graph of the network that the records describe

The loops add what `contributions` lists, where the line that two stations share
is the one that `common_line_name` finds. `networkContributions` has every line
that both of them name.

* `networkMerge_iff`: the graph loaded is the minimum-merge of these exactly when
  each shared line that matters is found.
-/

namespace Transit

variable {D : Type}

section

variable [CDouble D]

/-- What the rules contribute, with any line that two stations share. -/
def networkContributions (data : AppData D) : List Contribution := contributionsBy sharedLine data

/-- A route or a transfer links the nodes in less time than a shared line. -/
def LinkedSooner (data : AppData D) (x y : Str) : Prop :=
  ∃ c ∈ data.routes.flatMap routeContributions ++ data.stops.flatMap (stopContributions data.stations),
    c.joins x y = true ∧ c.weight < 8

/-- Distances are used, or the first line that two stations share stands in front
of the blank entries of both lists, unless the two are linked sooner anyway. -/
def SharedLinesLead (data : AppData D) : Prop :=
  data.subwayDistances.any (distanceUsed data) = true ∨
  data.stations.Pairwise fun station other => ∀ line ∈ sharedLine station.lineNo other.lineNo,
    (line ∈ leadingNames station.lineNo ∧ line ∈ leadingNames other.lineNo) ∨
      LinkedSooner data station.stationId other.stationId

end

/-! ## The first least contribution -/

/-- What an edge carries after further contributions to it. -/
def mergeKeys (k : Option (Int × Str)) (cs : List Contribution) : Option (Int × Str) :=
  cs.foldl (fun k c => some (mergeKey k c.key)) k

theorem mergeKeys_append (k : Option (Int × Str)) (cs ds : List Contribution) :
    mergeKeys k (cs ++ ds) = mergeKeys (mergeKeys k cs) ds := List.foldl_append ..

theorem argmin_key_eq (cs : List Contribution) : (cs.argmin (·.weight)).map (·.key) = mergeKeys none cs := by
  induction cs using List.reverseRecOn with
  | nil => rfl
  | append_singleton cs c ih =>
    rw [argmin_append_key, mergeKeys_append, ih]
    rfl

variable {key : Int × Str} {k k' : Option (Int × Str)} {cs ds : List Contribution}

theorem mergeKey_of_lt {c : Contribution} (h : ∀ key ∈ k, c.weight < key.1) : mergeKey k c.key = c.key := by
  cases k with
  | none => rfl
  | some key => exact if_pos (h key rfl)

/-- What takes no less time changes nothing. -/
theorem mergeKeys_of_le (h : ∀ c ∈ cs, key.1 ≤ c.weight) : mergeKeys (some key) cs = some key := by
  induction cs with
  | nil => rfl
  | cons c cs ih =>
    rw [List.forall_mem_cons] at h
    have hkeep : mergeKey (some key) c.key = key := if_neg (Int.not_lt.mpr h.1)
    show mergeKeys (some (mergeKey (some key) c.key)) cs = _
    rw [hkeep, ih h.2]

/-- An edge that takes longer than `n` minutes still does after such contributions. -/
theorem lt_mergeKeys {n : Int} (hk : ∀ key ∈ k, n < key.1) (h : ∀ c ∈ cs, n < c.weight) :
    ∀ key ∈ mergeKeys k cs, n < key.1 := by
  induction cs generalizing k with
  | nil => exact hk
  | cons c cs ih =>
    rw [List.forall_mem_cons] at h
    refine ih (fun key hkey => ?_) h.2
    cases hkey
    cases k with
    | none => exact h.1
    | some key =>
      show n < (mergeKey (some key) c.key).1
      unfold mergeKey
      dsimp only
      split
      · exact h.1
      · exact hk key rfl

/-- Where something quicker comes, it does not matter what was there of `n` minutes or more. -/
theorem mergeKeys_sooner {n : Int} (hk : ∀ key ∈ k, n ≤ key.1) (hk' : ∀ key ∈ k', n ≤ key.1)
    (h : ∃ c ∈ cs, c.weight < n) : mergeKeys k cs = mergeKeys k' cs := by
  induction cs generalizing k k' with
  | nil =>
    obtain ⟨c, hc, -⟩ := h
    cases hc
  | cons c cs ih =>
    by_cases hc : c.weight < n
    · show mergeKeys (some (mergeKey k c.key)) cs = mergeKeys (some (mergeKey k' c.key)) cs
      rw [mergeKey_of_lt fun key hkey => Int.lt_of_lt_of_le hc (hk key hkey),
        mergeKey_of_lt fun key hkey => Int.lt_of_lt_of_le hc (hk' key hkey)]
    · have hrest : ∃ c ∈ cs, c.weight < n := by
        obtain ⟨d, hd, hlt⟩ := h
        rcases List.mem_cons.mp hd with rfl | hd
        · exact absurd hlt hc
        · exact ⟨d, hd, hlt⟩
      have hone : ∀ {k : Option (Int × Str)}, (∀ key ∈ k, n ≤ key.1) →
          ∀ key ∈ mergeKeys k [c], n ≤ key.1 := fun hk key hkey => by
        have hlow := lt_mergeKeys (n := n - 1) (fun key hkey => by have := hk key hkey; omega)
          (List.forall_mem_singleton.mpr (by omega)) key hkey
        omega
      exact ih (hone hk) (hone hk') hrest

theorem mergeKeys_alike {n : Int} (h : ∀ c ∈ cs, c.weight = n) : mergeKeys none cs = cs.head?.map (·.key) := by
  cases cs with
  | nil => rfl
  | cons c cs =>
    rw [List.forall_mem_cons] at h
    exact mergeKeys_of_le fun d hd => by
      rw [h.2 d hd]
      exact Int.le_of_eq h.1

/-- Between what is quicker and what is not, contributions of `n` minutes tell
by the first of them, unless there is something quicker. -/
theorem mergeKeys_between {n : Int} {before cs' after : List Contribution} (hbefore : ∀ c ∈ before, c.weight < n)
    (hcs : ∀ c ∈ cs, c.weight = n) (hcs' : ∀ c ∈ cs', c.weight = n) (hafter : ∀ c ∈ after, c.weight ≠ n) :
    mergeKeys none (before ++ cs ++ after) = mergeKeys none (before ++ cs' ++ after) ↔
      (∃ c ∈ before ++ after, c.weight < n) ∨ cs.head?.map (·.key) = cs'.head?.map (·.key) := by
  have halike : ∀ {cs : List Contribution}, (∀ c ∈ cs, c.weight = n) →
      ∀ key ∈ cs.head?.map (·.key), key.1 = n := fun hcs key hkey => by
    obtain ⟨c, hc, rfl⟩ := Option.map_eq_some_iff.mp hkey
    exact hcs c (List.mem_of_mem_head? hc)
  rw [mergeKeys_append, mergeKeys_append, mergeKeys_append, mergeKeys_append]
  cases before with
  | cons b before =>
    -- the contributions of `n` minutes come too late
    refine iff_of_true ?_ (.inl ⟨b, List.mem_append_left _ (List.mem_cons_self ..), hbefore b (List.mem_cons_self ..)⟩)
    obtain ⟨key, hkey, hlt⟩ : ∃ key, mergeKeys none (b :: before) = some key ∧ key.1 < n := by
      rw [← argmin_key_eq]
      cases hmin : (b :: before).argmin (·.weight) with
      | none => exact absurd (List.argmin_eq_none.mp hmin) (List.cons_ne_nil _ _)
      | some c => exact ⟨c.key, rfl, hbefore c (List.argmin_mem hmin)⟩
    have hkeep : ∀ {ds : List Contribution}, (∀ c ∈ ds, c.weight = n) → mergeKeys (some key) ds = some key :=
      fun hds => mergeKeys_of_le fun c hc => by rw [hds c hc]; exact Int.le_of_lt hlt
    rw [hkey, hkeep hcs, hkeep hcs']
  | nil =>
    show mergeKeys (mergeKeys none cs) after = mergeKeys (mergeKeys none cs') after ↔ _
    rw [mergeKeys_alike hcs, mergeKeys_alike hcs', List.nil_append]
    by_cases hsooner : ∃ c ∈ after, c.weight < n
    · refine iff_of_true (mergeKeys_sooner (fun key hkey => ?_) (fun key hkey => ?_) hsooner) (.inl hsooner)
      · exact Int.le_of_eq (halike hcs key hkey).symm
      · exact Int.le_of_eq (halike hcs' key hkey).symm
    · have hlater : ∀ c ∈ after, n < c.weight := fun c hc => by
        have hne := hafter c hc
        have hnot : ¬ c.weight < n := fun hlt => hsooner ⟨c, hc, hlt⟩
        omega
      have hkeep : ∀ {k : Option (Int × Str)} {key : Int × Str}, k = some key → key.1 = n →
          mergeKeys k after = some key := fun hk hkey => by
        rw [hk]
        exact mergeKeys_of_le fun c hc => by
          rw [hkey]
          exact Int.le_of_lt (hlater c hc)
      have hnone : ∀ key ∈ mergeKeys none after, n < key.1 := lt_mergeKeys (by simp) hlater
      rw [or_iff_right hsooner]
      refine ⟨fun heq => ?_, fun heq => by rw [heq]⟩
      have hhead := halike hcs
      have hhead' := halike hcs'
      cases h : cs.head?.map (·.key) with
      | none =>
        cases h' : cs'.head?.map (·.key) with
        | none => rfl
        | some key =>
          rw [h, h', hkeep rfl (hhead' key h')] at heq
          exact absurd (hhead' key h') (Int.ne_of_gt (hnone key heq))
      | some key =>
        rw [h, hkeep rfl (hhead key h)] at heq
        cases h' : cs'.head?.map (·.key) with
        | none =>
          rw [h'] at heq
          exact absurd (hhead key h) (Int.ne_of_gt (hnone key heq.symm))
        | some key' =>
          rw [h', hkeep rfl (hhead' key' h')] at heq
          exact heq

/-! ## Two stations -/

section

variable {shared : Str → Str → Option Str} {stations : List (StationNode D)}

theorem stationLink_joins {station other : StationNode D} {x y : Str} {c : Contribution}
    (hc : c ∈ stationLink shared station other) : c.joins x y = true ↔
      (station.stationId.val = x ∧ other.stationId.val = y) ∨
        (station.stationId.val = y ∧ other.stationId.val = x) := by
  obtain ⟨line, -, rfl⟩ := Option.map_eq_some_iff.mp hc
  exact joins_iff

/-- The links of one station that join two ids. -/
theorem filter_stationLink {station other : StationNode D} {x y : Str} :
    (stationLink shared station other).filter (·.joins x y) =
      if (station.stationId.val = x ∧ other.stationId.val = y) ∨ (station.stationId.val = y ∧ other.stationId.val = x)
      then stationLink shared station other else none := by
  cases hlink : stationLink shared station other with
  | none =>
    rw [ite_self]
    rfl
  | some c =>
    have hjoins := stationLink_joins (x := x) (y := y) hlink
    rw [Option.filter_some]
    by_cases h : c.joins x y = true
    · rw [if_pos h, if_pos (hjoins.mp h)]
    · rw [if_neg h, if_neg fun hids => h (hjoins.mpr hids)]

theorem find?_stationLinks (station : StationNode D) (rest : List (StationNode D)) (x y : Str) :
    (rest.filterMap (stationLink shared station)).find? (·.joins x y) =
      (rest.filterMap fun other => (stationLink shared station other).filter (·.joins x y)).head? := by
  rw [← List.head?_filter, List.filter_filterMap]

/-- What two stations contribute, the first of which stands before the second. -/
theorem find?_sharedLineContributions {station other : StationNode D} (hids : (stations.map (·.stationId.val)).Nodup)
    (hpair : [station, other].Sublist stations) :
    (sharedLineContributions shared stations).find? (·.joins station.stationId other.stationId) =
      stationLink shared station other := by
  induction stations with
  | nil => cases hpair
  | cons first rest ih =>
    rw [List.map_cons, List.nodup_cons] at hids
    obtain ⟨hfirst, hrest⟩ := hids
    have hnot : ∀ o ∈ rest, first.stationId.val ≠ o.stationId.val := fun o ho heq =>
      hfirst (heq ▸ List.mem_map_of_mem ho)
    unfold sharedLineContributions
    rw [List.find?_append, find?_stationLinks]
    rcases List.sublist_cons_iff.mp hpair with hsub | ⟨tail, htail, hsub⟩
    · -- the first station of the list is neither of them
      have hnone : (rest.filterMap fun o => (stationLink shared first o).filter
          (·.joins station.stationId other.stationId)) = [] := by
        refine List.filterMap_eq_nil_iff.mpr fun o _ => ?_
        rw [filter_stationLink, if_neg]
        rintro (⟨hid, -⟩ | ⟨hid, -⟩)
        · exact hnot station (hsub.subset (List.mem_cons_self ..)) hid
        · exact hnot other (hsub.subset (List.mem_cons_of_mem _ (List.mem_singleton_self _))) hid
      rw [hnone, List.head?_nil, Option.none_or]
      exact ih hrest hsub
    · obtain ⟨rfl, rfl⟩ := List.cons.inj htail
      have hother : other ∈ rest := List.singleton_sublist.mp hsub
      have hown : (rest.filterMap fun o => (stationLink shared station o).filter
          (·.joins station.stationId other.stationId)) = (stationLink shared station other).toList := by
        have hsplit : ∀ o ∈ rest, (stationLink shared station o).filter (·.joins station.stationId other.stationId) =
            if o.stationId.val = other.stationId then stationLink shared station other else none := by
          intro o ho
          rw [filter_stationLink]
          by_cases hid : o.stationId.val = other.stationId
          · rw [if_pos (.inl ⟨rfl, hid⟩), if_pos hid, List.inj_on_of_nodup_map hrest ho hother hid]
          · rw [if_neg hid, if_neg]
            rintro (⟨-, hid'⟩ | ⟨hid', -⟩)
            · exact hid hid'
            · exact hnot other hother hid'
        rw [List.filterMap_congr hsplit]
        exact Framework.filterMap_of_nodup _ hrest hother _
      have hrec : (sharedLineContributions shared rest).find? (·.joins station.stationId other.stationId) = none := by
        refine List.find?_eq_none.mpr fun c hc hjoins => ?_
        obtain ⟨hfrom, hto, -⟩ := sharedLineContributions_ids c hc
        rcases joins_iff.mp hjoins with ⟨hid, -⟩ | ⟨-, hid⟩
        · exact hfirst (hid ▸ hfrom)
        · exact hfirst (hid ▸ hto)
      rw [hown, hrec, Option.or_none, Option.head?_toList]

/-- Only what is said of the two matters. -/
theorem find?_sharedLineContributions_congr {shared' : Str → Str → Option Str} {x y : Str}
    (h : stations.Pairwise fun station other =>
      (station.stationId.val = x ∧ other.stationId.val = y) ∨ (station.stationId.val = y ∧ other.stationId.val = x) →
        shared station.lineNo other.lineNo = shared' station.lineNo other.lineNo) :
    (sharedLineContributions shared stations).find? (·.joins x y) =
      (sharedLineContributions shared' stations).find? (·.joins x y) := by
  induction h with
  | nil => rfl
  | @cons station rest hstation _ ih =>
    have hlinks : ∀ other ∈ rest, (stationLink shared station other).filter (·.joins x y) =
        (stationLink shared' station other).filter (·.joins x y) := by
      intro other hother
      rw [filter_stationLink, filter_stationLink]
      refine ite_congr rfl (fun hids => ?_) fun _ => rfl
      unfold stationLink
      rw [hstation other hother hids]
    unfold sharedLineContributions
    rw [List.find?_append, List.find?_append, find?_stationLinks, find?_stationLinks, List.filterMap_congr hlinks, ih]

end

/-! ## The network -/

section

variable [CDouble D] {data : AppData D} {g : TransferGraph D} {cs : List Contribution}

/-- The edge of a minimum-merge carries the first least contribution. -/
theorem MinMerge.edgeKey_eq (h : MinMerge data cs g) (hok : GraphOk g) {u v : Nat} {x y : Str} (huv : u ≠ v)
    (hx : g.ids[u]? = some x) (hy : g.ids[v]? = some y) :
    (graphFindEdge g u v).map edgeKey = mergeKeys none (cs.filter (·.joins x y)) := by
  rw [← argmin_key_eq]
  cases hfind : graphFindEdge g u v with
  | none =>
    have hnone : cs.filter (·.joins x y) = [] := by
      refine List.filter_eq_nil_iff.mpr fun c hc hjoins => ?_
      obtain ⟨e, he⟩ := (h.edge_iff huv hx hy).mpr ⟨c, hc, hjoins⟩
      rw [hok.graphFindEdge_eq_some.mpr he] at hfind
      cases hfind
    rw [hnone]
    rfl
  | some e =>
    obtain ⟨he, hto⟩ := hok.graphFindEdge_eq_some.mp hfind
    obtain ⟨c, hc, hweight, hlabel⟩ := h.edge_least huv hx hy e he hto
    rw [hc]
    exact congrArg some (Prod.ext hweight hlabel)

/-- A graph that merges some contributions merges others exactly where these
give every two records the same edge. -/
theorem minMerge_iff (h : Merged g cs) (hids : ∀ x, x ∈ g.ids ↔ x ∈ recordIds data) {cs' : List Contribution} :
    MinMerge data cs' g ↔ ∀ x ∈ recordIds data, ∀ y ∈ recordIds data, x ≠ y →
      mergeKeys none (cs.filter (·.joins x y)) = mergeKeys none (cs'.filter (·.joins x y)) := by
  constructor
  · intro hmerge x hx y hy hxy
    obtain ⟨u, hu⟩ := List.mem_iff_getElem?.mp ((hids x).mpr hx)
    obtain ⟨v, hv⟩ := List.mem_iff_getElem?.mp ((hids y).mpr hy)
    have huv : u ≠ v := by
      rintro rfl
      exact hxy (Option.some_inj.mp (hu.symm.trans hv))
    rw [← (h.minMerge hids).edgeKey_eq h.ok huv hu hv, hmerge.edgeKey_eq h.ok huv hu hv]
  · intro hsame
    refine Merged.minMerge ⟨h.ok, h.ids, fun {u v x y} huv hx hy => ?_⟩ hids
    have hxy : x ≠ y := by
      rintro rfl
      exact huv (index_unique h.ids hx hy)
    have hrecord : ∀ {u : Nat} {x : Str}, g.ids[u]? = some x → x ∈ recordIds data := fun hx =>
      (hids _).mp (List.mem_of_getElem? hx)
    rw [h.edge huv hx hy, argmin_key_eq, argmin_key_eq]
    exact hsame x (hrecord hx) y (hrecord hy) hxy

/-- Where no distance is used, two records are joined by the other three rules. -/
theorem filter_contributionsBy (shared : Str → Str → Option Str) {x y : Str} (hx : x ∈ recordIds data)
    (hy : y ∈ recordIds data) (hunused : data.subwayDistances.any (distanceUsed data) = false) :
    (contributionsBy shared data).filter (·.joins x y) =
      (data.routes.flatMap routeContributions).filter (·.joins x y) ++
        (sharedLineContributions shared data.stations).filter (·.joins x y) ++
        (data.stops.flatMap (stopContributions data.stations)).filter (·.joins x y) := by
  have hrows : (data.subwayDistances.map distanceContribution).filter (·.joins x y) = [] := by
    refine List.filter_eq_nil_iff.mpr fun c hc hjoins => ?_
    obtain ⟨row, hrow, rfl⟩ := List.mem_map.mp hc
    have hused : distanceUsed data row = true := by
      unfold distanceUsed
      rw [Bool.and_eq_true, List.contains_iff_mem, List.contains_iff_mem]
      rcases joins_iff.mp hjoins with ⟨rfl, rfl⟩ | ⟨rfl, rfl⟩
      · exact ⟨hx, hy⟩
      · exact ⟨hy, hx⟩
    exact Bool.eq_false_iff.mp hunused (List.any_eq_true.mpr ⟨row, hrow, hused⟩)
  unfold contributionsBy
  rw [hunused, List.filter_append, List.filter_append, List.filter_append, hrows, List.append_nil]
  rfl

omit [CDouble D] in
theorem routeContributions_weight {route : RouteNode} : ∀ c ∈ routeContributions route, c.weight = 5 := by
  intro c hc
  obtain ⟨i, hi, rfl⟩ := List.mem_iff_getElem.mp hc
  simp only [routeContributions, List.getElem_zipWith]

theorem transferMinutesFromDistance_ne (d : D) : transferMinutesFromDistance d ≠ 8 := by
  simp only [transferMinutesFromDistance]
  repeat' split
  all_goals decide

theorem stopContributions_weight {stations : List (StationNode D)} {stop : StopNode D} :
    ∀ c ∈ stopContributions stations stop, c.weight ≠ 8 := by
  intro c hc
  unfold stopContributions at hc
  split at hc
  · cases hc
  · split at hc
    · obtain ⟨station, -, rfl⟩ := List.mem_map.mp hc
      exact transferMinutesFromDistance_ne _
    · split at hc
      · rw [List.mem_singleton.mp hc]
        exact transferMinutesFromDistance_ne _
      · cases hc

/-- Two records get the same edge from either notion of a shared line where they
are linked sooner, or are joined by the same line first. -/
theorem mergeKeys_network {x y : Str} (hx : x ∈ recordIds data) (hy : y ∈ recordIds data)
    (hunused : data.subwayDistances.any (distanceUsed data) = false) :
    mergeKeys none ((contributions data).filter (·.joins x y)) =
        mergeKeys none ((networkContributions data).filter (·.joins x y)) ↔
      LinkedSooner data x y ∨
        ((sharedLineContributions leadingLine data.stations).find? (·.joins x y)).map (·.key) =
          ((sharedLineContributions sharedLine data.stations).find? (·.joins x y)).map (·.key) := by
  unfold contributions networkContributions
  rw [filter_contributionsBy leadingLine hx hy hunused, filter_contributionsBy sharedLine hx hy hunused,
    @mergeKeys_between _ 8 _ _ _ (fun c hc => ?_) (fun c hc => ?_) (fun c hc => ?_) fun c hc => ?_,
    List.head?_filter, List.head?_filter, ← List.filter_append]
  · refine or_congr_left ?_
    unfold LinkedSooner
    simp only [List.mem_filter, and_assoc]
  · obtain ⟨route, -, hroute⟩ := List.mem_flatMap.mp (List.mem_filter.mp hc).1
    rw [routeContributions_weight c hroute]
    decide
  · exact (sharedLineContributions_ids c (List.mem_filter.mp hc).1).2.2
  · exact (sharedLineContributions_ids c (List.mem_filter.mp hc).1).2.2
  · obtain ⟨stop, -, hstop⟩ := List.mem_flatMap.mp (List.mem_filter.mp hc).1
    exact stopContributions_weight c hstop

theorem LinkedSooner.symm {x y : Str} (h : LinkedSooner data x y) : LinkedSooner data y x := by
  obtain ⟨c, hc, hjoins, hlt⟩ := h
  exact ⟨c, hc, joins_comm c x y ▸ hjoins, hlt⟩

/-- The graph of a store is the minimum-merge of the network exactly when the
shared lines lead. -/
theorem networkMerge_merged_iff (h : Merged g (contributions data)) (hids : ∀ x, x ∈ g.ids ↔ x ∈ recordIds data)
    (hstations : (data.stations.map (·.stationId.val)).Nodup) :
    MinMerge data (networkContributions data) g ↔ SharedLinesLead data := by
  rw [minMerge_iff h hids]
  unfold SharedLinesLead
  cases hunused : data.subwayDistances.any (distanceUsed data) with
  | true =>
    refine iff_of_true (fun x _ y _ _ => ?_) (.inl rfl)
    unfold contributions networkContributions contributionsBy
    rw [hunused, if_pos rfl, if_pos rfl]
  | false =>
    have hrecord : ∀ {station : StationNode D}, station ∈ data.stations → station.stationId.val ∈ recordIds data :=
      fun hs => List.mem_append_right _ (List.mem_map_of_mem hs)
    rw [or_iff_right Bool.false_ne_true]
    constructor
    · intro hsame
      refine List.pairwise_iff_forall_sublist.mpr fun {station other} hpair line hline => ?_
      have hmem := hpair.subset
      have hne : station.stationId.val ≠ other.stationId.val := by
        have hnodup := hstations.sublist (hpair.map (·.stationId.val))
        exact fun heq => (List.nodup_cons.mp hnodup).1 (List.mem_singleton.mpr heq)
      have hkeys := hsame _ (hrecord (hmem (List.mem_cons_self ..))) _
        (hrecord (hmem (List.mem_cons_of_mem _ (List.mem_singleton_self _)))) hne
      rw [mergeKeys_network (hrecord (hmem (List.mem_cons_self ..)))
        (hrecord (hmem (List.mem_cons_of_mem _ (List.mem_singleton_self _)))) hunused,
        find?_sharedLineContributions hstations hpair, find?_sharedLineContributions hstations hpair] at hkeys
      rcases hkeys with hsooner | hlines
      · exact .inr hsooner
      · have hinj : Function.Injective fun line : Str => ((8 : Int), line) := fun a b hab => (Prod.ext_iff.mp hab).2
        unfold stationLink at hlines
        rw [Option.map_map, Option.map_map] at hlines
        exact .inl (leadingLine_eq_iff.mp (Option.map_injective hinj hlines) line hline)
    · intro hlead x hx y hy _
      rw [mergeKeys_network hx hy hunused]
      by_cases hsooner : LinkedSooner data x y
      · exact .inl hsooner
      · refine .inr (congrArg _ (find?_sharedLineContributions_congr (hlead.imp fun {station other} hpair hids => ?_)))
        refine leadingLine_eq_iff.mpr fun line hline => (hpair line hline).resolve_right fun hlinked => hsooner ?_
        rcases hids with ⟨rfl, rfl⟩ | ⟨rfl, rfl⟩
        · exact hlinked
        · exact hlinked.symm

/-- The graph that the loader builds from any files is the minimum-merge of the
network exactly when the shared lines lead. -/
theorem networkMerge_iff (files : CsvFiles) :
    MinMerge (loadedData files : AppData D) (networkContributions (loadedData files : AppData D))
      (loadedData files : AppData D).graph ↔
      SharedLinesLead (loadedData files : AppData D) := by
  have hg := (loading_loadRecords (D := D) files).graph
  have hstations := (storeOk_dataLoaderLoad (D := D) files).stations_nodup
  unfold loadedData
  rw [dataLoaderLoad_eq] at hstations ⊢
  exact networkMerge_merged_iff (merged_buildGraph hg) (mem_ids_buildGraph hg) hstations

/-- Where the loader returns 1 distances are used, and shared lines do not matter. -/
theorem sharedLinesLead_of_load {files : CsvFiles} (h : (dataLoaderLoad files : AppData D × Bool).2 = true) :
    SharedLinesLead (loadedData files : AppData D) := by
  obtain ⟨distance, hmem⟩ := List.exists_mem_of_ne_nil _ (subwayDistances_of_load h)
  obtain ⟨⟨fromStation, hfrom, hfromId⟩, ⟨toStation, hto, htoId⟩, -⟩ :=
    (storeOk_dataLoaderLoad (D := D) files).distances distance hmem
  refine .inl (List.any_eq_true.mpr ⟨distance, hmem, ?_⟩)
  have hrecord : ∀ station ∈ (loadedData files : AppData D).stations,
      (recordIds (loadedData files : AppData D)).contains station.stationId.val = true := fun station hstation =>
    List.contains_iff_mem.mpr (List.mem_append_right _ (List.mem_map_of_mem hstation))
  unfold distanceUsed
  rw [← hfromId, ← htoId, hrecord _ hfrom, hrecord _ hto]
  rfl

end

/-- Two stations that share the line B, behind an empty entry, and no distances. -/
def blankEntryFiles : CsvFiles where
  busStops := some (utf8 "stop_id,stop_name\nS,S\n")
  busRoutes := some (utf8 "route_no,start_stop_id,end_stop_id\n1,S,S\n")
  routeStops := some (utf8 "route_no,seq,stop_id\n1,1,S\n")
  subwayStations := some (utf8 "station_id,station_name,line_no\nT,T,\"A,,B\"\nU,U,B\n")
  subwayDistances := some (utf8 "from_station_id,to_station_id,distance_km,estimated_minutes\n")
  facilities := some (utf8 "facility_id,name,category,nearest_node_id\nF,F,shop,S\n")
  arrivalTest := some (utf8 "route_no,node_id,time_slot,arrival_minutes,status\n")
  crowdingTest := some (utf8 "route_no,node_id,time_slot,crowding_level\n")

/-- They are not linked. -/
theorem networkMerge_blankEntry : ¬ MinMerge (loadedData blankEntryFiles : AppData ℚ)
    (networkContributions (loadedData blankEntryFiles : AppData ℚ)) (loadedData blankEntryFiles : AppData ℚ).graph := by
  intro h
  have hids : (loadedData blankEntryFiles : AppData ℚ).graph.ids = [utf8 "S", utf8 "U", utf8 "T"] := by decide +kernel
  have hedges : ((loadedData blankEntryFiles : AppData ℚ).graph.edgesAt 1).isEmpty = true := by decide +kernel
  have hlink : (networkContributions (loadedData blankEntryFiles : AppData ℚ)).any (·.joins (utf8 "U") (utf8 "T")) =
      true := by decide +kernel
  have hedge := h.edge_iff (by decide : 1 ≠ 2) (by rw [hids]; rfl) (by rw [hids]; rfl)
  obtain ⟨e, he, -⟩ := hedge.mpr (List.any_eq_true.mp hlink)
  rw [List.isEmpty_iff.mp hedges] at he
  cases he

end Transit
