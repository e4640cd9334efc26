import Mathlib.Algebra.Order.BigOperators.Group.List
import Mathlib.Algebra.Order.Monoid.Defs
import Mathlib.Data.List.Nodup
import Mathlib.Tactic.Common

/-!
# Shortest paths by settling the nearest node

A weighted relation `E u v c` on any type of nodes, with weights that are not
negative in an ordered monoid. `Walk` are its walks from a source; `Labels`
are the distances, predecessors and visited nodes of a search from it.

`Inv` is what the search keeps: every node reached has a chain of predecessors
(`Chain`) of the weight of its distance, through visited nodes; edges out of
visited nodes are relaxed but for the `pending` ones; visited nodes are not
farther than `d` and the others not nearer. `Inv.visit` and `Inv.relax` are
the two steps of the search.

* `Inv.dist_le`: with positive weights, a node no farther than all nodes not
  visited is at its true distance;
* `Inv.visited_of_walk`: with no node left to visit, all nodes a walk reaches
  are visited;
* `Chain.walk`, `Chain.nodup`: a chain is a walk without repeated nodes.
-/

namespace Framework

variable {V W : Type*} [AddCommMonoid W]

section

variable (E : V → V → W → Prop) (s : V)

/-- Walks from the source: the last node, all nodes in order, the weight. -/
inductive Walk : V → List V → W → Prop
  | source : Walk s [s] 0
  | step {u v : V} {l : List V} {w c : W} : Walk u l w → E u v c → Walk v (l ++ [v]) (w + c)

/-- Following predecessors from a node leads back to the source: the nodes
from the source on and the weight. -/
inductive Chain (prev : V → Option V) : V → List V → W → Prop
  | source : Chain prev s [s] 0
  | step {u v : V} {l : List V} {w c : W} : Chain prev u l w → prev v = some u → v ≠ s → v ∉ l →
      E u v c → Chain prev v (l ++ [v]) (w + c)

end

/-- The state of a search. -/
structure Labels (V W : Type*) where
  dist : V → W
  prev : V → Option V
  visited : V → Prop

/-- Visiting a node. -/
def Labels.visit (L : Labels V W) (cur : V) : Labels V W :=
  { L with visited := fun v => v = cur ∨ L.visited v }

/-- A shorter way to `v` by an edge of weight `c` out of `cur`. -/
def Labels.improve [DecidableEq V] (L : Labels V W) (cur v : V) (c : W) : Labels V W :=
  { L with dist := Function.update L.dist v (L.dist cur + c),
           prev := Function.update L.prev v (some cur) }

variable {E : V → V → W → Prop} {s : V}

/-! ## Walks and chains -/

theorem Walk.getLast? {v : V} {l : List V} {w : W} (h : Walk E s v l w) : l.getLast? = some v := by
  cases h with
  | source => rfl
  | step => exact List.getLast?_concat ..

theorem Walk.head? {v : V} {l : List V} {w : W} (h : Walk E s v l w) : l.head? = some s := by
  induction h with
  | source => rfl
  | step _ _ ih => simp [List.head?_append, ih]

theorem Walk.ne_nil {v : V} {l : List V} {w : W} (h : Walk E s v l w) : l ≠ [] := by
  rintro rfl; simpa using h.head?

/-- Every node of a walk but the first is the end of an edge. -/
theorem Walk.mem {v : V} {l : List V} {w : W} (h : Walk E s v l w) :
    ∀ x ∈ l, x = s ∨ ∃ u c, E u x c := by
  induction h with
  | source => simp
  | @step u v l w c _ he ih =>
    intro x hx
    rcases List.mem_append.mp hx with hx | hx
    · exact ih x hx
    · rw [List.mem_singleton.mp hx]; exact .inr ⟨u, c, he⟩

/-- The steps of a walk, for a function that knows the weight of an edge. -/
theorem Walk.sum_zipWith {v : V} {l : List V} {w : W} (h : Walk E s v l w) {f : V → V → W}
    (hf : ∀ u v c, E u v c → f u v = c) : (List.zipWith f l l.tail).sum = w := by
  induction h with
  | source => simp
  | @step u v l w c hw he ih =>
    obtain ⟨l', rfl⟩ : ∃ l', l = l' ++ [u] := by
      have hl := hw.getLast?
      rw [List.getLast?_eq_some_iff] at hl
      exact hl
    have key : List.zipWith f (l' ++ [u] ++ [v]) (l' ++ [u] ++ [v]).tail =
        List.zipWith f (l' ++ [u]) (l' ++ [u]).tail ++ [f u v] := by
      clear ih hw
      induction l' with
      | nil => simp
      | cons a l' ih =>
        cases l' with
        | nil => simp
        | cons b l' => simpa using ih
    rw [key, List.sum_append, ih, List.sum_singleton, hf u v c he]

/-- An edge in front of a walk. -/
theorem Walk.cons {t v : V} {l : List V} {w c : W} (he : E s t c) (h : Walk E t v l w) :
    Walk E s v (s :: l) (c + w) := by
  induction h with
  | source =>
    rw [add_comm]
    exact Walk.step Walk.source he
  | step _ he' ih =>
    rw [← add_assoc]
    exact Walk.step ih he'

/-- Where every edge has one back of its weight, so has every walk. -/
theorem Walk.reverse (hE : ∀ u v c, E u v c → E v u c) {v : V} {l : List V} {w : W} (h : Walk E s v l w) :
    Walk E v s l.reverse w := by
  induction h with
  | source => exact Walk.source
  | step _ he ih =>
    rw [List.reverse_append, add_comm]
    exact ih.cons (hE _ _ _ he)

theorem Walk.append {u v : V} {l l' : List V} {w w' : W} (h : Walk E s u l w) (h' : Walk E u v l' w') :
    Walk E s v (l ++ l'.tail) (w + w') := by
  induction h' with
  | source =>
    rw [add_zero, List.tail_cons, List.append_nil]
    exact h
  | step hw he ih =>
    rw [List.tail_append_of_ne_nil hw.ne_nil, ← List.append_assoc, ← add_assoc]
    exact ih.step he

/-- A walk seen in another graph. -/
theorem Walk.map {U : Type*} {E' : U → U → W → Prop} {f : V → U} (hE : ∀ u v c, E u v c → E' (f u) (f v) c) {v : V}
    {l : List V} {w : W} (h : Walk E s v l w) : Walk E' (f s) (f v) (l.map f) w := by
  induction h with
  | source => exact Walk.source
  | step _ he ih =>
    rw [List.map_append]
    exact ih.step (hE _ _ _ he)

/-- Consecutive nodes of a walk are joined by an edge. -/
theorem Walk.edge {v : V} {l : List V} {w : W} (h : Walk E s v l w) {i : Nat} {x y : V}
    (hx : l[i]? = some x) (hy : l[i + 1]? = some y) : ∃ c, E x y c := by
  induction h with
  | source => simp at hy
  | @step u v l w c hw he ih =>
    by_cases hi : i + 1 < l.length
    · exact ih (by rwa [List.getElem?_append_left (by omega)] at hx)
        (by rwa [List.getElem?_append_left hi] at hy)
    · have hlen : i + 1 < (l ++ [v]).length := by
        by_contra hc
        rw [List.getElem?_eq_none (by omega)] at hy
        cases hy
      simp only [List.length_append, List.length_singleton] at hlen
      have hil : i + 1 = l.length := by omega
      rw [List.getElem?_append_right (by omega), hil, Nat.sub_self] at hy
      rw [List.getElem?_append_left (by omega)] at hx
      simp only [List.getElem?_cons_zero, Option.some.injEq] at hy
      have hu := hw.getLast?
      rw [List.getLast?_eq_getElem?, show l.length - 1 = i by omega, hx] at hu
      simp only [Option.some.injEq] at hu
      subst hu hy
      exact ⟨c, he⟩

variable {prev prev' : V → Option V}

theorem Chain.walk {v : V} {l : List V} {w : W} (h : Chain E s prev v l w) : Walk E s v l w := by
  induction h with
  | source => exact .source
  | step _ _ _ _ he ih => exact ih.step he

theorem Chain.nodup {v : V} {l : List V} {w : W} (h : Chain E s prev v l w) : l.Nodup := by
  induction h with
  | source => simp
  | step _ _ _ hv _ ih => rw [← List.concat_eq_append]; exact ih.concat hv

/-- A chain depends only on the predecessors of its nodes. -/
theorem Chain.congr {v : V} {l : List V} {w : W} (h : Chain E s prev v l w)
    (hp : ∀ x ∈ l, prev' x = prev x) : Chain E s prev' v l w := by
  induction h with
  | source => exact .source
  | step _ hprev hs hv he ih =>
    refine .step (ih fun x hx => hp x (List.mem_append_left _ hx)) ?_ hs hv he
    rw [hp _ (by simp), hprev]

/-! ## The search -/

variable [LinearOrder W]

/-- What a search keeps, `d` being the distance of the last node visited. -/
structure Inv (E : V → V → W → Prop) (s : V) (inf d : W) (pending : V → V → W → Prop)
    (L : Labels V W) : Prop where
  source : L.dist s = 0
  chain : ∀ v, L.dist v < inf →
    ∃ l, Chain E s L.prev v l (L.dist v) ∧ ∀ x ∈ l, x ≠ v → L.visited x
  reached : ∀ u, L.visited u → L.dist u < inf
  relaxed : ∀ u v c, L.visited u → E u v c → ¬ pending u v c → L.dist v ≤ L.dist u + c
  below : ∀ u, L.visited u → L.dist u ≤ d
  above : ∀ v, ¬ L.visited v → d ≤ L.dist v

variable {inf d : W} {pending : V → V → W → Prop} {L : Labels V W}

/-- The start: the source at distance 0, all others at `inf`. -/
theorem Inv.init (hinf : 0 < inf) (hs : L.dist s = 0) (hd : ∀ v, v ≠ s → L.dist v = inf)
    (hv : ∀ v, ¬ L.visited v) : Inv E s inf 0 (fun _ _ _ => False) L where
  source := hs
  chain := by
    intro v h
    by_cases hvs : v = s
    · subst hvs
      exact ⟨[v], hs ▸ .source, by simp⟩
    · rw [hd v hvs] at h
      exact absurd h (lt_irrefl _)
  reached u h := absurd h (hv u)
  relaxed u _ _ h := absurd h (hv u)
  below u h := absurd h (hv u)
  above v _ := by
    by_cases hvs : v = s
    · rw [hvs, hs]
    · rw [hd v hvs]; exact hinf.le

/-- Visiting the nearest node makes the edges out of it pending. -/
theorem Inv.visit (h : Inv E s inf d (fun _ _ _ => False) L) {cur : V} (hc : ¬ L.visited cur)
    (hinf : L.dist cur < inf) (hmin : ∀ v, ¬ L.visited v → L.dist cur ≤ L.dist v) :
    Inv E s inf (L.dist cur) (fun u _ _ => u = cur) (L.visit cur) where
  source := h.source
  chain v hv := by
    obtain ⟨l, hl, hvis⟩ := h.chain v hv
    exact ⟨l, hl, fun x hx hne => .inr (hvis x hx hne)⟩
  reached u hu := by
    rcases hu with rfl | hu
    · exact hinf
    · exact h.reached u hu
  relaxed u v c hu he hp := by
    rcases hu with rfl | hu
    · exact absurd rfl hp
    · exact h.relaxed u v c hu he id
  below u hu := by
    rcases hu with rfl | hu
    · exact le_rfl
    · exact (h.below u hu).trans (h.above cur hc)
  above v hv := hmin v fun hv' => hv (.inr hv')

theorem Inv.of_pending (h : Inv E s inf d pending L) {pending' : V → V → W → Prop}
    (hp : ∀ u v c, E u v c → pending u v c → pending' u v c) : Inv E s inf d pending' L where
  source := h.source
  chain := h.chain
  reached := h.reached
  relaxed u v c hu he hn := h.relaxed u v c hu he fun hpend => hn (hp u v c he hpend)
  below := h.below
  above := h.above

theorem Inv.near_of_visited (h : Inv E s inf d pending L) {v : V} (hv : L.visited v) :
    ∀ y, ¬ L.visited y → L.dist v ≤ L.dist y := fun y hy => (h.below v hv).trans (h.above y hy)

/-- When no node is left that was reached and not visited, and the way to the
end of every edge is shorter than `inf`, every node of a walk has been visited. -/
theorem Inv.visited_of_walk (h : Inv E s inf d (fun _ _ _ => False) L) (hinf : 0 < inf)
    (hsum : ∀ u v c, L.visited u → E u v c → L.dist u + c < inf)
    (hnone : ∀ v, ¬ L.visited v → inf ≤ L.dist v) {v : V} {l : List V} {w : W}
    (hw : Walk E s v l w) : L.visited v := by
  induction hw with
  | source =>
    by_contra hs
    exact absurd (hnone s hs) (not_le.mpr (h.source ▸ hinf))
  | @step u v l w c _ he ih =>
    by_contra hv
    exact absurd ((hnone v hv).trans (h.relaxed u v c ih he id)) (not_le.mpr (hsum u v c ih he))

variable [IsOrderedAddMonoid W]

theorem Walk.weight_nonneg (hE : ∀ u v c, E u v c → 0 ≤ c) {v : V} {l : List V} {w : W}
    (h : Walk E s v l w) : 0 ≤ w := by
  induction h with
  | source => exact le_rfl
  | step _ he ih => exact add_nonneg ih (hE _ _ _ he)

/-- A walk is followed in another graph, by at most one edge for each of its own,
which weighs no more. -/
theorem Walk.follow {U : Type*} {E' : U → U → W → Prop} {R : V → U → Prop}
    (hE : ∀ u v c x, E u v c → R u x → ∃ y, R v y ∧ (y = x ∧ 0 ≤ c ∨ ∃ c' ≤ c, E' x y c')) {v : V} {l : List V} {w : W}
    (h : Walk E s v l w) {x : U} (hx : R s x) : ∃ y l' w', R v y ∧ w' ≤ w ∧ Walk E' x y l' w' := by
  induction h with
  | source => exact ⟨x, [x], 0, hx, le_rfl, Walk.source⟩
  | @step u v l w c _ he ih =>
    obtain ⟨y, l', w', hy, hle, hwalk⟩ := ih
    obtain ⟨z, hz, ⟨rfl, hc⟩ | ⟨c', hc, hedge⟩⟩ := hE u v c y he hy
    · exact ⟨z, l', w', hz, hle.trans (le_add_of_nonneg_right hc), hwalk⟩
    · exact ⟨z, l' ++ [z], w' + c', hz, add_le_add hle hc, hwalk.step hedge⟩

/-- A walk weighs at most what the nodes it leaves can give. -/
theorem Walk.weight_le {out : V → W} (hout : ∀ u v c, E u v c → c ≤ out u) {v : V} {l : List V}
    {w : W} (h : Walk E s v l w) : w ≤ (l.dropLast.map out).sum := by
  induction h with
  | source => simp
  | @step u v l w c hw he ih =>
    obtain ⟨l', rfl⟩ : ∃ l', l = l' ++ [u] := List.getLast?_eq_some_iff.mp hw.getLast?
    simp only [List.dropLast_concat, List.map_append, List.map_cons, List.map_nil, List.sum_append,
      List.sum_singleton] at ih ⊢
    exact add_le_add ih (hout u v c he)

/-- An edge whose end is already at least as near needs no change. -/
theorem Inv.relax_skip (h : Inv E s inf d pending L) {cur v : V} {c : W} (hE : ∀ u v c, E u v c → 0 ≤ c)
    (hd : d ≤ L.dist cur) (he : E cur v c) (hskip : L.visited v ∨ L.dist v ≤ L.dist cur + c) :
    Inv E s inf d (fun u x b => pending u x b ∧ ¬ (u = cur ∧ x = v ∧ b = c)) L where
  source := h.source
  chain := h.chain
  reached := h.reached
  below := h.below
  above := h.above
  relaxed u x b hu hb hp := by
    by_cases heq : u = cur ∧ x = v ∧ b = c
    · obtain ⟨rfl, rfl, rfl⟩ := heq
      rcases hskip with hv | hle
      · calc L.dist x ≤ d := h.below x hv
          _ ≤ L.dist u := hd
          _ ≤ L.dist u + b := le_add_of_nonneg_right (hE _ _ _ he)
      · exact hle
    · exact h.relaxed u x b hu hb fun hpend => hp ⟨hpend, heq⟩

/-- A shorter way to a node not visited. -/
theorem Inv.relax_improve [DecidableEq V] (h : Inv E s inf d pending L) {cur v : V} {c : W}
    (hE : ∀ u v c, E u v c → 0 ≤ c) (hcur : L.visited cur) (hd : d ≤ L.dist cur) (he : E cur v c)
    (hv : ¬ L.visited v) (hlt : L.dist cur + c < L.dist v) :
    Inv E s inf d (fun u x b => pending u x b ∧ ¬ (u = cur ∧ x = v ∧ b = c)) (L.improve cur v c) := by
  have hne : ∀ x, L.visited x → x ≠ v := fun x hx e => hv (e ▸ hx)
  have hkeep : ∀ x, x ≠ v → (L.improve cur v c).dist x = L.dist x := fun x hx =>
    Function.update_of_ne hx ..
  have hnew : (L.improve cur v c).dist v = L.dist cur + c := Function.update_self ..
  obtain ⟨lc, hlc, hvis⟩ := h.chain cur (h.reached cur hcur)
  have hnn : 0 ≤ L.dist cur + c := add_nonneg (hlc.walk.weight_nonneg hE) (hE _ _ _ he)
  have hvs : v ≠ s := fun e => absurd (hlt.trans_le ((congrArg L.dist e).trans h.source).le)
    (not_lt.mpr hnn)
  have hvl : v ∉ lc := fun hm => hv (by
    by_cases hvc : v = cur
    · rw [hvc]; exact hcur
    · exact hvis v hm hvc)
  refine ⟨?_, fun x hx => ?_, fun u hu => ?_, fun u x b hu hb hp => ?_, fun u hu => ?_, fun x hx => ?_⟩
  · rw [hkeep s (Ne.symm hvs), h.source]
  · by_cases hxv : x = v
    · subst hxv
      rw [hnew]
      refine ⟨lc ++ [x], .step (hlc.congr fun y hy => ?_) (Function.update_self ..) hvs hvl he,
        fun y hy hyx => ?_⟩
      · exact Function.update_of_ne (fun e : y = x => hvl (e ▸ hy)) ..
      · rcases List.mem_append.mp hy with hy | hy
        · by_cases hyc : y = cur
          · rw [hyc]; exact hcur
          · exact hvis y hy hyc
        · exact absurd (List.mem_singleton.mp hy) hyx
    · rw [hkeep x hxv] at hx ⊢
      obtain ⟨l, hl, hvis'⟩ := h.chain x hx
      refine ⟨l, hl.congr fun y hy => Function.update_of_ne ?_ .., hvis'⟩
      by_cases hyx : y = x
      · rwa [hyx]
      · exact hne y (hvis' y hy hyx)
  · rw [hkeep u (hne u hu)]; exact h.reached u hu
  · rw [hkeep u (hne u hu)]
    by_cases hxv : x = v
    · subst hxv
      rw [hnew]
      by_cases heq : u = cur ∧ b = c
      · rw [heq.1, heq.2]
      · exact hlt.le.trans (h.relaxed u x b hu hb fun hpend => hp ⟨hpend, fun e => heq ⟨e.1, e.2.2⟩⟩)
    · rw [hkeep x hxv]
      exact h.relaxed u x b hu hb fun hpend => hp ⟨hpend, fun e => hxv e.2.1⟩
  · rw [hkeep u (hne u hu)]; exact h.below u hu
  · by_cases hxv : x = v
    · subst hxv
      rw [hnew]
      exact hd.trans (le_add_of_nonneg_right (hE _ _ _ he))
    · rw [hkeep x hxv]; exact h.above x hx

/-! ## What the search finds -/

/-- A path through visited nodes is lighter than what these nodes can give. -/
theorem Inv.dist_add_lt (h : Inv E s inf d pending L) {out : V → W} (hout : ∀ u v c, E u v c → c ≤ out u)
    (hsum : ∀ l : List V, l.Nodup → (∀ x ∈ l, L.visited x) → (l.map out).sum < inf)
    {u v : V} {c : W} (hu : L.visited u) (he : E u v c) : L.dist u + c < inf := by
  obtain ⟨lu, hlu, hvis⟩ := h.chain u (h.reached u hu)
  have hall : ∀ x ∈ lu, L.visited x := fun x hx => by
    by_cases hxu : x = u
    · rw [hxu]; exact hu
    · exact hvis x hx hxu
  refine lt_of_le_of_lt ?_ (hsum lu hlu.nodup hall)
  have hle := (hlu.walk.step he).weight_le hout
  rwa [List.dropLast_concat] at hle

section

variable {W : Type*} [AddCommMonoid W] [LinearOrder W] [IsOrderedCancelAddMonoid W]
  {E : V → V → W → Prop} {inf d : W} {L : Labels V W}

/-- A walk leads to a node whose distance it bounds, or past one not visited that is nearer. -/
theorem Inv.walk_bound (h : Inv E s inf d (fun _ _ _ => False) L) (hE : ∀ u v c, E u v c → 0 < c)
    {v : V} {l : List V} {w : W} (hw : Walk E s v l w) :
    L.dist v ≤ w ∨ ∃ y, ¬ L.visited y ∧ L.dist y < w := by
  induction hw with
  | source => exact .inl h.source.le
  | @step u v l w c _ he ih =>
    have hlt : w < w + c := lt_add_of_pos_right _ (hE u v c he)
    rcases ih with hle | ⟨y, hy, hyw⟩
    · by_cases hu : L.visited u
      · exact .inl ((h.relaxed u v c hu he id).trans (add_le_add_left hle c))
      · exact .inr ⟨u, hu, hle.trans_lt hlt⟩
    · exact .inr ⟨y, hy, hyw.trans hlt⟩

/-- A node no farther than all nodes not visited is at its distance from the source. -/
theorem Inv.dist_le (h : Inv E s inf d (fun _ _ _ => False) L) (hE : ∀ u v c, E u v c → 0 < c)
    {v : V} (hnear : ∀ y, ¬ L.visited y → L.dist v ≤ L.dist y) {l : List V} {w : W}
    (hw : Walk E s v l w) : L.dist v ≤ w := by
  rcases h.walk_bound hE hw with hle | ⟨y, hy, hlt⟩
  · exact hle
  · exact (hnear y hy).trans hlt.le

end

end Framework
