import Transit.Framework.Preferences
import Transit.Proof.GraphBuild
import Transit.Server.FacilityService
import Transit.Server.TransferService

/-!
# Place names in path and facility requests

`resolve_node_by_keyword` and `resolve_node_id` scan the nodes for an id, then
for an equal name, then for a name that contains the keyword. Each is a search
by preferences (`resolveNodeByKeyword_eq`, `resolveNodeIndex_eq`), and the only
preference that the first has and the second has not is that for coordinates.

* `resolve_agree`: where they differ.
-/

namespace Transit

open Framework (firstBy firstBy_append firstBy_cons firstBy_eq_none_iff firstBy_insert firstBy_lt firstBy_nil
  findIdx?_first
  map_findIdx?_cons FirstLater Outranked)

variable {D : Type}

/-- The names that count: those equal to the keyword if there are any, or else
those that contain it. -/
def nameMatches (data : AppData D) (keyword : Str) (node : GraphNode D) : Bool :=
  if data.graph.nodes.any (·.nodeName.val == keyword) then node.nodeName.val == keyword
  else keywordMatch node.nodeName keyword

/-- A station, where the keyword names one. -/
def stationPreferred (keyword : Str) (node : GraphNode D) : Bool :=
  keywordMatch keyword (utf8 "역") && node.nodeType.val == utf8 "subway_station"

def idMatches (keyword : Str) (node : GraphNode D) : Bool := node.nodeId.val == keyword

/-- The preferences of both functions: the id, then a station. -/
def sharedPreferences (data : AppData D) (keyword : Str) : List (GraphNode D → Bool) :=
  [idMatches keyword, fun node => nameMatches data keyword node && stationPreferred keyword node]

theorem stationPreferred_eq (keyword : Str) (node : GraphNode D) :
    (keywordMatch keyword (utf8 "역") && node.nodeType.val == utf8 "subway_station") =
      stationPreferred keyword node := rfl

section

variable [CDouble D]

/-- The node at `j` was chosen by its name, without the preference for stations;
it lacks coordinates, which a later node with such a name has. -/
structure LosesToLater (data : AppData D) (keyword : Str) (j : Nat) : Prop where
  notById : ∀ node ∈ data.graph.nodes, node.nodeId.val ≠ keyword
  notByStation : ∀ node ∈ data.graph.nodes, nameMatches data keyword node = true →
    stationPreferred keyword node = false
  unlocated : ∀ node, data.graph.nodes[j]? = some node → nodeHasCoordinates node = false
  later : ∃ k node, j < k ∧ data.graph.nodes[k]? = some node ∧ nameMatches data keyword node = true ∧
    nodeHasCoordinates node = true

/-- The matching nodes with coordinates. -/
def locatedMatches (data : AppData D) (keyword : Str) (node : GraphNode D) : Bool :=
  nameMatches data keyword node && nodeHasCoordinates node

/-! ## The passes -/

/-- What `resolve_node_by_keyword` returns after a pass. -/
def passChoice : Nat ⊕ Candidates → Option Nat
  | .inl i => some i
  | .inr c => c.coordinateCandidate.or c.candidate

theorem passChoice_resolvePass (isMatch : GraphNode D → Bool) (keyword : Str) (nodes : List (GraphNode D)) (i : Nat)
    (c : Candidates) :
    passChoice (resolvePass isMatch (keywordMatch keyword (utf8 "역")) nodes i c) =
      ((nodes.findIdx? fun node => isMatch node && stationPreferred keyword node).map (i + ·)).or
        ((c.coordinateCandidate.or
          ((nodes.findIdx? fun node => isMatch node && nodeHasCoordinates node).map (i + ·))).or
          (c.candidate.or ((nodes.findIdx? isMatch).map (i + ·)))) := by
  induction nodes generalizing i c with
  | nil => simp [resolvePass, passChoice]
  | cons node rest ih =>
    rw [map_findIdx?_cons, map_findIdx?_cons, map_findIdx?_cons]
    unfold resolvePass
    by_cases hmatch : isMatch node = true
    · rw [if_pos hmatch, stationPreferred_eq]
      by_cases hstation : stationPreferred keyword node = true
      · rw [if_pos hstation]
        simp [hmatch, hstation, passChoice]
      · rw [if_neg hstation]
        cases hcoord : c.coordinateCandidate with
        | some k =>
          cases hcand : c.candidate <;> simp [hmatch, hstation, hcoord, hcand, ih]
        | none =>
          by_cases hloc : nodeHasCoordinates node = true
          · simp [hmatch, hstation, hloc, ih]
          · cases hcand : c.candidate <;> simp [hmatch, hstation, hloc, hcoord, hcand, ih]
    · rw [if_neg hmatch, ih]
      simp [hmatch]

/-- A pass from the first node on searches by three preferences. -/
theorem passChoice_firstBy (isMatch : GraphNode D → Bool) (keyword : Str) (nodes : List (GraphNode D)) :
    passChoice (resolvePass isMatch (keywordMatch keyword (utf8 "역")) nodes 0 ⟨none, none⟩) =
      firstBy [fun node => isMatch node && stationPreferred keyword node,
        fun node => isMatch node && nodeHasCoordinates node, isMatch] nodes := by
  rw [passChoice_resolvePass]
  simp

end

/-- What `resolve_node_id` returns after the pass over equal names. -/
def exactChoice : Nat ⊕ Option Nat → Option Nat
  | .inl i => some i
  | .inr candidate => candidate

theorem exactChoice_resolveExact (keyword : Str) (nodes : List (GraphNode D)) (i : Nat) (candidate : Option Nat) :
    exactChoice (resolveExact keyword (keywordMatch keyword (utf8 "역")) nodes i candidate) =
      ((nodes.findIdx? fun node => node.nodeName.val == keyword && stationPreferred keyword node).map (i + ·)).or
        (candidate.or ((nodes.findIdx? (·.nodeName.val == keyword)).map (i + ·))) := by
  induction nodes generalizing i candidate with
  | nil => simp [resolveExact, exactChoice]
  | cons node rest ih =>
    rw [map_findIdx?_cons, map_findIdx?_cons]
    unfold resolveExact
    by_cases hmatch : (node.nodeName.val == keyword) = true
    · rw [if_pos hmatch, stationPreferred_eq]
      by_cases hstation : stationPreferred keyword node = true
      · rw [if_pos hstation]
        simp [hmatch, hstation, exactChoice]
      · rw [if_neg hstation, ih]
        cases candidate <;> simp [hmatch, hstation]
    · rw [if_neg hmatch, ih]
      simp [hmatch]

theorem resolveSubstring_eq (keyword : Str) (nodes : List (GraphNode D)) (i : Nat) (candidate : Option Nat) :
    resolveSubstring keyword (keywordMatch keyword (utf8 "역")) nodes i candidate =
      ((nodes.findIdx? fun node => keywordMatch node.nodeName keyword && stationPreferred keyword node).map (i + ·)).or
        (candidate.or ((nodes.findIdx? (keywordMatch ·.nodeName keyword)).map (i + ·))) := by
  induction nodes generalizing i candidate with
  | nil => simp [resolveSubstring]
  | cons node rest ih =>
    rw [map_findIdx?_cons, map_findIdx?_cons]
    unfold resolveSubstring
    by_cases hmatch : keywordMatch node.nodeName keyword = true
    · rw [if_pos hmatch, stationPreferred_eq]
      by_cases hstation : stationPreferred keyword node = true
      · rw [if_pos hstation]
        simp [hmatch, hstation]
      · rw [if_neg hstation, ih]
        cases candidate <;> simp [hmatch, hstation]
    · rw [if_neg hmatch, ih]
      simp [hmatch]

/-! ## The two functions -/

/-- Where a name is equal to the keyword, only equal names count. -/
theorem firstBy_names (data : AppData D) (keyword : Str)
    (ps : (GraphNode D → Bool) → List (GraphNode D → Bool)) (hlast : ∀ isMatch, isMatch ∈ ps isMatch)
    (hps : ∀ isMatch, ∀ p ∈ ps isMatch, ∀ node, p node = true → isMatch node = true) :
    (firstBy (ps fun node => node.nodeName.val == keyword) data.graph.nodes).or
        (firstBy (ps (keywordMatch ·.nodeName keyword)) data.graph.nodes) =
      firstBy (ps (nameMatches data keyword)) data.graph.nodes := by
  unfold nameMatches
  by_cases hany : data.graph.nodes.any (·.nodeName.val == keyword) = true
  · obtain ⟨node, hnode, heq⟩ := List.any_eq_true.mp hany
    simp only [hany, ↓reduceIte]
    cases hfirst : firstBy (ps fun node => node.nodeName.val == keyword) data.graph.nodes with
    | some i => rfl
    | none =>
      have hno := firstBy_eq_none_iff.mp hfirst _ (hlast _) node hnode
      rw [heq] at hno
      cases hno
  · have hnone : firstBy (ps fun node => node.nodeName.val == keyword) data.graph.nodes = none := by
      refine firstBy_eq_none_iff.mpr fun p hp node hnode => Bool.eq_false_iff.mpr fun hpn => ?_
      exact hany (List.any_eq_true.mpr ⟨node, hnode, hps _ p hp node hpn⟩)
    rw [hnone, Option.none_or]
    simp only [hany, Bool.false_eq_true, ↓reduceIte]

theorem resolveNodeIndex_eq (data : AppData D) {keyword : Str} (hblank : strIsBlank keyword = false) :
    resolveNodeIndex data keyword =
      firstBy (sharedPreferences data keyword ++ [nameMatches data keyword]) data.graph.nodes := by
  have hnames := firstBy_names data keyword
    (fun isMatch => [fun node => isMatch node && stationPreferred keyword node, isMatch])
    (by simp) (by simp +contextual)
  have hexact := exactChoice_resolveExact keyword data.graph.nodes 0 none
  have hsubstring := resolveSubstring_eq keyword data.graph.nodes 0 none
  have hid : data.graph.nodes.findIdx? (·.nodeId.val == keyword) =
      data.graph.nodes.findIdx? (idMatches keyword) := rfl
  simp only [sharedPreferences, List.cons_append, List.nil_append, firstBy_cons, firstBy_nil, Nat.zero_add,
    Option.map_id', Option.or_none, Option.none_or] at hnames hexact hsubstring ⊢
  rw [← hnames, ← hexact, ← hsubstring, ← hid]
  unfold resolveNodeIndex
  rw [if_neg (by simp [hblank])]
  cases data.graph.nodes.findIdx? (·.nodeId.val == keyword) with
  | some i => rfl
  | none =>
    rw [Option.none_or]
    dsimp only
    cases resolveExact keyword (keywordMatch keyword (utf8 "역")) data.graph.nodes 0 none with
    | inl i => rfl
    | inr candidate => cases candidate <;> rfl

section

variable [CDouble D]

theorem resolveNodeByKeyword_eq (data : AppData D) {keyword : Str} (hblank : strIsBlank keyword = false) :
    resolveNodeByKeyword data keyword =
      firstBy (sharedPreferences data keyword ++ [locatedMatches data keyword, nameMatches data keyword])
        data.graph.nodes := by
  have hnames := firstBy_names data keyword
    (fun isMatch => [fun node => isMatch node && stationPreferred keyword node,
      fun node => isMatch node && nodeHasCoordinates node, isMatch])
    (by simp) (by simp +contextual)
  have hid : data.graph.nodes.findIdx? (·.nodeId.val == keyword) =
      data.graph.nodes.findIdx? (idMatches keyword) := rfl
  rw [← passChoice_firstBy, ← passChoice_firstBy] at hnames
  unfold sharedPreferences locatedMatches
  rw [List.cons_append, firstBy_cons, ← hid, List.singleton_append]
  rw [← hnames]
  unfold resolveNodeByKeyword
  rw [if_neg (by simp [hblank])]
  cases data.graph.nodes.findIdx? (·.nodeId.val == keyword) with
  | some i => rfl
  | none =>
    rw [Option.none_or]
    dsimp only
    generalize resolvePass (keywordMatch ·.nodeName.val keyword) _ data.graph.nodes 0 ⟨none, none⟩ = second
    cases resolvePass (·.nodeName.val == keyword) (keywordMatch keyword (utf8 "역")) data.graph.nodes 0
        ⟨none, none⟩ with
    | inl i => rfl
    | inr c =>
      rcases c with ⟨_ | i, _ | k⟩
      · rcases second with i | ⟨candidate, _ | k⟩ <;> rfl
      · rfl
      · rfl
      · rfl

omit [CDouble D] in
theorem resolveNodeId_eq_none_iff (data : AppData D) {keyword : Str} :
    resolveNodeId data keyword = none ↔ resolveNodeIndex data keyword = none := by
  unfold resolveNodeId
  cases hindex : resolveNodeIndex data keyword with
  | none => exact iff_of_true rfl rfl
  | some j =>
    have hlt : j < data.graph.nodes.length := by
      cases hblank : strIsBlank keyword with
      | true =>
        have hnone : resolveNodeIndex data keyword = none := if_pos hblank
        cases hnone.symm.trans hindex
      | false => exact firstBy_lt ((resolveNodeIndex_eq data hblank).symm.trans hindex)
    rw [Option.bind_some, List.getElem?_eq_getElem hlt]
    exact iff_of_false (Option.some_ne_none _) (Option.some_ne_none _)

/-- The search by id or station decides, or else the first name. -/
theorem losesToLater_iff (data : AppData D) (keyword : Str) {j : Nat}
    (hj : firstBy (sharedPreferences data keyword ++ [nameMatches data keyword]) data.graph.nodes = some j) :
    LosesToLater data keyword j ↔
      Outranked (sharedPreferences data keyword) (locatedMatches data keyword) data.graph.nodes j := by
  constructor
  · rintro ⟨hid, hstation, hloc, k, node, hk, hnode, hname, hhas⟩
    refine ⟨?_, fun node hnode => ?_, k, node, hk, hnode, ?_⟩
    · simp only [sharedPreferences, List.forall_mem_cons, List.not_mem_nil, false_implies, implies_true, and_true]
      refine ⟨fun node hnode => by simpa [idMatches] using hid node hnode, fun node hnode => ?_⟩
      cases hname : nameMatches data keyword node with
      | false => rfl
      | true => exact hstation node hnode hname
    · rw [locatedMatches, hloc node hnode, Bool.and_false]
    · rw [locatedMatches, hname, hhas, Bool.and_true]
  · rintro ⟨hps, hlacks, k, node, hk, hnode, hhas⟩
    have hname : ∀ node, data.graph.nodes[j]? = some node → nameMatches data keyword node = true := by
      intro node hnode
      rw [firstBy_append, firstBy_eq_none_iff.mpr hps, Option.none_or, firstBy_cons, firstBy_nil, Option.or_none]
        at hj
      obtain ⟨⟨node', hnode', hname⟩, -⟩ := findIdx?_first hj
      exact Option.some_inj.mp (hnode.symm.trans hnode') ▸ hname
    simp only [sharedPreferences, List.forall_mem_cons, List.not_mem_nil, false_implies, implies_true, and_true] at hps
    rw [locatedMatches, Bool.and_eq_true] at hhas
    refine ⟨fun node hnode => by simpa [idMatches] using hps.1 node hnode, fun node hnode hmatch => ?_,
      fun node hnode => ?_, k, node, hk, hnode, hhas.1, hhas.2⟩
    · have hno := hps.2 node hnode
      rwa [hmatch, Bool.true_and] at hno
    · have hno := hlacks node hnode
      rwa [locatedMatches, hname node hnode, Bool.true_and] at hno

/-- Path and facility requests resolve a place name to the same node, or to none;
only where a name decides, and the first node of that name lacks coordinates,
the path search takes the first later one that has them, if there is one. -/
theorem resolve_agree (data : AppData D) (hids : data.graph.ids.Nodup) (keyword : Str) :
    (resolveNodeByKeyword data keyword = none ↔ resolveNodeId data keyword = none) ∧
    ∀ {i : Nat} {id : Str}, resolveNodeByKeyword data keyword = some i → resolveNodeId data keyword = some id →
      ∃ j, (∀ k, data.graph.ids[k]? = some id ↔ k = j) ∧
        (i ≠ j ↔ LosesToLater data keyword j) ∧
        (LosesToLater data keyword j → FirstLater (locatedMatches data keyword) data.graph.nodes j i) := by
  cases hblank : strIsBlank keyword with
  | true =>
    have hpath : resolveNodeByKeyword data keyword = none := if_pos hblank
    have hindex : resolveNodeIndex data keyword = none := if_pos hblank
    unfold resolveNodeId
    rw [hpath, hindex]
    exact ⟨iff_of_true rfl rfl, fun h => (Option.some_ne_none _ h.symm).elim⟩
  | false =>
    have hlocated : ∀ node, locatedMatches data keyword node = true → nameMatches data keyword node = true :=
      fun node h => (Bool.and_eq_true_iff.mp h).1
    have hpath := resolveNodeByKeyword_eq data hblank
    have hindex := resolveNodeIndex_eq data hblank
    obtain ⟨hnone, hsome⟩ := @firstBy_insert _ (sharedPreferences data keyword) _ _ data.graph.nodes hlocated
    rw [← hpath, ← hindex] at hnone
    rw [← hpath, ← hindex] at hsome
    refine ⟨by rw [resolveNodeId_eq_none_iff, hnone], fun {i id} hi hid => ?_⟩
    obtain ⟨j, hj, hnode⟩ := Option.bind_eq_some_iff.mp hid
    have hjid : data.graph.ids[j]? = some id := by
      unfold TransferGraph.ids
      rw [List.getElem?_map, hnode]
    obtain ⟨hne, hlater⟩ := hsome hi hj
    rw [← losesToLater_iff data keyword (hindex ▸ hj)] at hne hlater
    exact ⟨j, fun k => ⟨fun hk => index_unique hids hk hjid, fun hk => hk ▸ hjid⟩, hne, hlater⟩

end

/-- Two stops of one name, of which only the second has coordinates. -/
def samePlaces : AppData ℚ where
  stops := []
  routes := []
  stations := []
  subwayDistances := []
  facilities := []
  arrivals := []
  crowdings := []
  graph := runCalls [.addNode true (utf8 "S1") (utf8 "Park") (utf8 "bus_stop") 0 0,
    .addNode true (utf8 "S2") (utf8 "Park") (utf8 "bus_stop") 37 127]

theorem resolve_agree_samePlaces :
    ∃ j, (∀ k, samePlaces.graph.ids[k]? = some (utf8 "S1") ↔ k = j) ∧ LosesToLater samePlaces (utf8 "Park") j := by
  obtain ⟨-, hsome⟩ := resolve_agree samePlaces (by decide) (utf8 "Park")
  have hpath : resolveNodeByKeyword samePlaces (utf8 "Park") = some 1 := by decide +kernel
  have hfacility : resolveNodeId samePlaces (utf8 "Park") = some (utf8 "S1") := by decide +kernel
  obtain ⟨j, hj, hne, -⟩ := hsome hpath hfacility
  have hzero : 0 = j := (hj 0).mp (by decide)
  exact ⟨j, hj, hne.mp (by omega)⟩

end Transit
