import Transit.Proof.Framing
import Transit.Proof.LineStore

/-!
# When `handle_transfer` says that there is no route

The search misses no node that can be reached, but the path it has found must
fit `MAX_GRAPH_PATH` entries: a longer one is answered as if there were none.
Which of the shortest paths is found does not depend on the search: it is the
one that comes to every node from the nearest node it can, and from that of the
lowest index among these (`Framework.FirstPath`).

* `handleTransfer_notFound_iff`: NOT_FOUND means that there is no walk exactly
  when the first path fits;
* `handleTransfer_line_far`: on a line of 257 stops the last one is not found
  from the first one.
-/

namespace Transit

open Framework

variable {D : Type}

/-- No time to a node, together with that of an edge out of it, reaches `inf`. -/
def SumsBelowInf (g : TransferGraph D) (a : Nat) : Prop :=
  ∀ u l w, Walk g.Edge a u l w → (∀ l' w', Walk g.Edge a u l' w' → w ≤ w') →
    ∀ v c, g.Edge u v c → w + c < inf

section

variable {g : TransferGraph D} {a b : Nat} {d : Int} {s : Search}

/-- A node visited, or the nearest of the others, is at its distance. -/
theorem SearchInv.shortest (h : SearchInv g a d s) (hg : GraphOk g) {u : Nat} (hi : s.dist u < inf)
    (hnear : ∀ y, ¬ s.visited y = true → s.dist u ≤ s.dist y) :
    ∃ l, Walk g.Edge a u l (s.dist u) ∧ ∀ l' w', Walk g.Edge a u l' w' → s.dist u ≤ w' := by
  obtain ⟨l, hl, -⟩ := h.chain u hi
  exact ⟨l, hl.walk, fun l' w' hw' => h.dist_le hg.edge_zero_lt hnear hw'⟩

theorem SumsBelowInf.sumsExact (hsum : SumsBelowInf g a) (hg : GraphOk g) (ha : a < g.nodeCount) :
    SumsExact g a b := by
  refine searchSums_forall hg ha (fun _ h => h) (fun d s cur h _ hn _ e he => ?_) (searchInv_init g a) rfl
  obtain ⟨-, -, hi, hmin⟩ := h.nearest_some hg ha hn
  obtain ⟨l, hl, hshort⟩ := h.shortest hg hi fun y hy => (hmin y hy).le
  have hedge : g.Edge cur e.toIndex e.weightMin := ⟨e, he, rfl, rfl⟩
  have hlt := hsum cur l _ hl hshort _ _ hedge
  have hinf : inf ≤ intMax := by decide
  exact toInt32_add (h.dist_nonneg hg hi) (hg.edge_pos _ _ _ hedge) (by omega)

/-- `graph_find_path` fails when there is no walk, or the first path is too long. -/
theorem graphFindPath_none_iff (hg : GraphOk g) (ha : a < g.nodeCount) (hb : b < g.nodeCount)
    (hsum : SumsBelowInf g a) : graphFindPath true g a b = none ↔
      (∀ l w, ¬ Walk g.Edge a b l w) ∨ ∃ l w, FirstPath g.Edge a b l w ∧ maxGraphPath < l.length := by
  obtain ⟨found, s, hend, -, hnone, hsome⟩ := graphFindPath_end ha hb hg (hsum.sumsExact hg ha)
  cases found with
  | false =>
    refine iff_of_true (hnone rfl) (.inl (hend.not_walk hg ha fun d hinv u v c hu he => ?_))
    obtain ⟨l, hl, hshort⟩ := hinv.shortest hg (hinv.reached u hu) (hinv.near_of_visited hu)
    exact hsum u l _ hl hshort v c he
  | true =>
    obtain ⟨l, hl, hfirst, hpath⟩ := hsome rfl
    rw [hpath]
    constructor
    · intro h
      split at h
      · cases h
      · rename_i hlong
        exact .inr ⟨l, _, hfirst, Nat.lt_of_not_le hlong⟩
    · rintro (hno | ⟨l', w', hfirst', hlong⟩)
      · exact absurd hl.walk (hno l _)
      · rw [hfirst'.unique hfirst] at hlong
        exact if_neg (by omega)

end

/-! ## The handler -/

/-- A pass finds only nodes it has looked at. -/
theorem resolvePass_lt (isMatch : GraphNode D → Bool) (stationLike : Bool) [CDouble D]
    (nodes : List (GraphNode D)) {n i : Nat} {c : Candidates} (hn : i + nodes.length ≤ n)
    (hc : ∀ k, c.candidate = some k ∨ c.coordinateCandidate = some k → k < n) :
    (∀ k, resolvePass isMatch stationLike nodes i c = .inl k → k < n) ∧
    ∀ c', resolvePass isMatch stationLike nodes i c = .inr c' →
      ∀ k, c'.candidate = some k ∨ c'.coordinateCandidate = some k → k < n := by
  induction nodes generalizing i c with
  | nil =>
    unfold resolvePass
    exact ⟨fun k h => (by cases h), fun c' h => by cases h; exact hc⟩
  | cons node rest ih =>
    simp only [List.length_cons] at hn
    unfold resolvePass
    split
    · split
      · exact ⟨fun k h => by cases h; omega, fun c' h => by cases h⟩
      · split
        · refine ih (by omega) fun k hk => ?_
          rcases hk with hk | hk
          · exact hc k (.inl hk)
          · cases hk; omega
        · split
          · refine ih (by omega) fun k hk => ?_
            rcases hk with hk | hk
            · cases hk; omega
            · exact hc k (.inr hk)
          · exact ih (by omega) hc
    · exact ih (by omega) hc

theorem resolveNodeByKeyword_lt [CDouble D] {data : AppData D} {keyword : Str} {i : Nat}
    (h : resolveNodeByKeyword data keyword = some i) : i < data.graph.nodeCount := by
  have hpass : ∀ (isMatch : GraphNode D → Bool) (stationLike : Bool),
      (∀ k, resolvePass isMatch stationLike data.graph.nodes 0 ⟨none, none⟩ = .inl k →
        k < data.graph.nodes.length) ∧
      ∀ c', resolvePass isMatch stationLike data.graph.nodes 0 ⟨none, none⟩ = .inr c' →
        ∀ k, c'.candidate = some k ∨ c'.coordinateCandidate = some k → k < data.graph.nodes.length :=
    fun isMatch stationLike => resolvePass_lt isMatch stationLike _ (by omega) (by simp)
  unfold resolveNodeByKeyword at h
  split at h
  · cases h
  · split at h
    · rename_i j hj
      cases h
      exact (List.findIdx?_eq_some_iff_getElem.mp hj).1
    · dsimp only at h
      split at h
      · rename_i hr
        cases h
        exact (hpass _ _).1 _ hr
      · rename_i hr
        cases h
        exact (hpass _ _).2 _ hr _ (.inr rfl)
      · rename_i hr
        cases h
        exact (hpass _ _).2 _ hr _ (.inl rfl)
      · split at h
        · rename_i hr
          cases h
          exact (hpass _ _).1 _ hr
        · rename_i hr
          cases h
          exact (hpass _ _).2 _ hr _ (.inr rfl)
        · rename_i hr
          subst h
          exact (hpass _ _).2 _ hr _ (.inl rfl)

/-- The answer to a request whose two places are known. -/
theorem handleTransfer_code [CDouble D] {mem : Bool} {data : AppData D} {payload fromText toText : Str}
    {a b : Nat} (hcut : cutAt itemSep (safeStrcpy 256 payload) = some (fromText, toText))
    (ha : resolveNodeByKeyword data (strTrim fromText) = some a)
    (hb : resolveNodeByKeyword data (strTrim toText) = some b) (size : Nat) :
    (handleTransfer mem data payload size).code = .notFound ↔ graphFindPath mem data.graph a b = none := by
  have hblank : strIsBlank payload = false := by
    rw [Bool.eq_false_iff]
    intro hall
    have hsep : itemSep ∈ payload :=
      (List.take_subset _ _) ((cutAt_eq_some.mp hcut).1 ▸ List.mem_append_right _ (List.mem_cons_self ..))
    exact absurd (List.all_eq_true.mp hall itemSep hsep) (by decide)
  unfold handleTransfer
  rw [hblank, hcut]
  simp only [Bool.false_eq_true, ↓reduceIte, transferPath, ha, hb]
  cases graphFindPath mem data.graph a b with
  | none => exact iff_of_true rfl rfl
  | some path => exact iff_of_false (fun h => by cases h) (by simp)

/-- A TRANSFER request whose places are known is answered with NOT_FOUND only
where no walk leads from the one to the other, if and only if, where there is a
walk, the search gets its memory and the first path fits `MAX_GRAPH_PATH`. -/
theorem handleTransfer_notFound_iff [CDouble D] (files : CsvFiles) (mem : Bool) (size : Nat)
    {payload fromText toText : Str} {a b : Nat}
    (hcut : cutAt itemSep (safeStrcpy 256 payload) = some (fromText, toText))
    (ha : resolveNodeByKeyword (loadedData files : AppData D) (strTrim fromText) = some a)
    (hb : resolveNodeByKeyword (loadedData files : AppData D) (strTrim toText) = some b)
    (hsum : SumsBelowInf (loadedData files : AppData D).graph a) :
    ((handleTransfer mem (loadedData files : AppData D) payload size).code = .notFound →
      ∀ l w, ¬ Walk (loadedData files : AppData D).graph.Edge a b l w) ↔
    ((∃ l w, Walk (loadedData files : AppData D).graph.Edge a b l w) →
      mem = true ∧ ∀ l w, FirstPath (loadedData files : AppData D).graph.Edge a b l w →
        l.length ≤ maxGraphPath) := by
  have hg := graphOk_loadedData (D := D) files
  rw [handleTransfer_code hcut ha hb]
  generalize hdata : (loadedData files : AppData D) = data at ha hb hsum hg ⊢
  have hpath := graphFindPath_none_iff hg (resolveNodeByKeyword_lt ha) (resolveNodeByKeyword_lt hb) hsum
  cases mem with
  | false =>
    have hnone : graphFindPath false data.graph a b = none := by
      rw [graphFindPath_eq (resolveNodeByKeyword_lt ha) (resolveNodeByKeyword_lt hb)]
      rfl
    simp only [hnone, true_implies, Bool.false_eq_true, false_and, imp_false, not_exists]
  | true =>
    rw [hpath]
    constructor
    · intro h ⟨l, w, hwalk⟩
      refine ⟨rfl, fun l' w' hfirst => ?_⟩
      by_contra hlong
      exact h (.inr ⟨l', w', hfirst, Nat.lt_of_not_le hlong⟩) l w hwalk
    · rintro h (hno | ⟨l', w', hfirst, hlong⟩) l w hwalk
      · exact hno l w hwalk
      · exact absurd ((h ⟨l, w, hwalk⟩).2 l' w' hfirst) (by omega)

/-! ## From one end of a line to the other -/

/-- An id names its node. -/
theorem resolveNodeByKeyword_id [CDouble D] {data : AppData D} {id : Str} (hblank : strIsBlank id = false)
    (hid : id ∈ data.graph.ids) : ∃ i, resolveNodeByKeyword data id = some i ∧ data.graph.ids[i]? = some id := by
  cases hf : data.graph.nodes.findIdx? (·.nodeId.val == id) with
  | none =>
    obtain ⟨node, hnode, rfl⟩ := List.mem_map.mp hid
    have hno := List.findIdx?_eq_none_iff.mp hf node hnode
    rw [beq_self_eq_true] at hno
    cases hno
  | some i =>
    obtain ⟨hi, heq, -⟩ := List.findIdx?_eq_some_iff_getElem.mp hf
    refine ⟨i, ?_, ?_⟩
    · unfold resolveNodeByKeyword
      rw [hblank, hf]
      rfl
    · rw [TransferGraph.ids, List.getElem?_map, List.getElem?_eq_getElem hi, Option.map_some, beq_iff_eq.mp heq]

theorem sumsBelowInf_line {n : Nat} {g : TransferGraph ℚ} (h : LineGraph n g) (h0 : 0 < n) (hn : n ≤ 1000)
    {a : Nat} (ha : g.ids[a]? = some (fmtNat 0)) : SumsBelowInf g a := by
  intro u l w hw hmin v c he
  have hle := h.least_le ha h0 hw hmin
  obtain ⟨e, hedge, rfl, rfl⟩ := he
  have hu : u < g.ids.length := by
    rw [ids_length]
    by_contra hge
    rw [edgesAt_of_le (Nat.le_of_not_lt hge)] at hedge
    cases hedge
  have hv : e.toIndex < g.ids.length := by
    rw [ids_length]
    exact (h.ok.edges u).bound e hedge
  obtain ⟨hc, -⟩ := (h.edge (List.getElem?_eq_getElem hu) (List.getElem?_eq_getElem hv)).mp ⟨e, hedge, rfl, rfl⟩
  have hinf : inf = 536870911 := by decide
  omega

theorem lineName_letter : LineName (utf8 "S") :=
  ⟨csvField_of_letters (by decide) (by decide), by decide, by decide⟩

/-- The two ends of a line, as a request resolves them. -/
theorem resolve_line {n k : Nat} (hn : n ≤ 1000) (hk : k < n) :
    ∃ b, resolveNodeByKeyword (loadedData (lineFiles n (utf8 "S")) : AppData ℚ) (fmtNat k) = some b ∧
      (loadedData (lineFiles n (utf8 "S")) : AppData ℚ).graph.ids[b]? = some (fmtNat k) :=
  resolveNodeByKeyword_id (not_blank_fmtNat k) ((lineGraph_loaded hn lineName_letter).node k hk)

theorem handleTransfer_notFound_line :
    ∃ a b, resolveNodeByKeyword (loadedData (lineFiles 2 (utf8 "S")) : AppData ℚ) (utf8 "0") = some a ∧
      resolveNodeByKeyword (loadedData (lineFiles 2 (utf8 "S")) : AppData ℚ) (utf8 "1") = some b ∧
      (((handleTransfer true (loadedData (lineFiles 2 (utf8 "S")) : AppData ℚ) (utf8 "0:1") maxPacketSize).code =
          .notFound → ∀ l w, ¬ Walk (loadedData (lineFiles 2 (utf8 "S")) : AppData ℚ).graph.Edge a b l w) ↔
        ((∃ l w, Walk (loadedData (lineFiles 2 (utf8 "S")) : AppData ℚ).graph.Edge a b l w) →
          true = true ∧ ∀ l w, FirstPath (loadedData (lineFiles 2 (utf8 "S")) : AppData ℚ).graph.Edge a b l w →
            l.length ≤ maxGraphPath)) := by
  have hline := lineGraph_loaded (n := 2) (by decide) lineName_letter
  obtain ⟨a, ha, hida⟩ := resolve_line (n := 2) (k := 0) (by decide) (by decide)
  obtain ⟨b, hb, -⟩ := resolve_line (n := 2) (k := 1) (by decide) (by decide)
  exact ⟨a, b, ha, hb, handleTransfer_notFound_iff _ _ _
    (show cutAt itemSep (safeStrcpy 256 (utf8 "0:1")) = some (utf8 "0", utf8 "1") from rfl) ha hb
    (sumsBelowInf_line hline (by decide) (by decide) hida)⟩

/-- On a line of 257 stops the last one is answered with NOT_FOUND, though the line leads there. -/
theorem handleTransfer_line_far :
    (dataLoaderLoad (lineFiles 257 (utf8 "S")) : AppData ℚ × Bool).2 = true ∧
    ∃ a b, resolveNodeByKeyword (loadedData (lineFiles 257 (utf8 "S")) : AppData ℚ) (utf8 "0") = some a ∧
      resolveNodeByKeyword (loadedData (lineFiles 257 (utf8 "S")) : AppData ℚ) (utf8 "256") = some b ∧
      SumsBelowInf (loadedData (lineFiles 257 (utf8 "S")) : AppData ℚ).graph a ∧
      (handleTransfer true (loadedData (lineFiles 257 (utf8 "S")) : AppData ℚ) (utf8 "0:256") maxPacketSize).code =
        .notFound ∧
      ∃ l w, Walk (loadedData (lineFiles 257 (utf8 "S")) : AppData ℚ).graph.Edge a b l w := by
  have hline := lineGraph_loaded (n := 257) (by decide) lineName_letter
  obtain ⟨a, ha, hida⟩ := resolve_line (n := 257) (k := 0) (by decide) (by decide)
  obtain ⟨b, hb, hidb⟩ := resolve_line (n := 257) (k := 256) (by decide) (by decide)
  have hsum := sumsBelowInf_line hline (by decide) (by decide) hida
  obtain ⟨l, hwalk⟩ := hline.exists_walk hida (by decide) hidb
  have hok := graphOk_loadedData (D := ℚ) (lineFiles 257 (utf8 "S"))
  refine ⟨dataLoaderLoad_line (by decide) lineName_letter (by decide), a, b, ha, hb, hsum, ?_, l, _, hwalk⟩
  have hlta := resolveNodeByKeyword_lt ha
  rw [handleTransfer_code
    (show cutAt itemSep (safeStrcpy 256 (utf8 "0:256")) = some (utf8 "0", utf8 "256") from rfl) ha hb]
  obtain ⟨found, s, -, -, hnone, hsome⟩ :=
    graphFindPath_end hlta (resolveNodeByKeyword_lt hb) hok (hsum.sumsExact hok hlta)
  cases found with
  | false => exact hnone rfl
  | true =>
    obtain ⟨l', -, hfirst, hpath⟩ := hsome rfl
    -- every walk to the last stop passes all the others
    obtain ⟨k, -, hk, hlen⟩ := hline.walk_length hida (by decide) hfirst.walk
    have hlast : k = 256 := fmtNat_injective (Option.some_inj.mp (hk.symm.trans hidb))
    rw [hpath]
    apply if_neg
    show ¬ l'.length ≤ 256
    omega

end Transit
