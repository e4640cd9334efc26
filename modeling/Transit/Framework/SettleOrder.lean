import Transit.Framework.ShortestPath

/-!
# Which of the shortest paths a search finds

A search that settles nodes in the order of their distances, and nodes at the
same distance in the order of the nodes themselves, and that changes a
predecessor only for a shorter way, ends with one path of all shortest ones:
the one whose every node comes from the first of the nodes that lie on a
shortest path to it (`FirstPath`). `Settled` adds this to `Inv`.

* `Settled.firstPath`: the chain of predecessors is the first path;
* `FirstPath.unique`: there is only one.
-/

namespace Framework

variable {V W : Type*} [AddCommMonoid W] [LinearOrder W] [PartialOrder V]

/-- The order in which nodes are settled. -/
def NotAfter (dist : V → W) (u v : V) : Prop := dist u < dist v ∨ (dist u = dist v ∧ u ≤ v)

omit [AddCommMonoid W] in
theorem NotAfter.le {dist : V → W} {u v : V} (h : NotAfter dist u v) : dist u ≤ dist v := by
  rcases h with hlt | ⟨heq, -⟩
  · exact hlt.le
  · exact heq.le

/-- The shortest path that comes to every node from the first node it can. -/
inductive FirstPath (E : V → V → W → Prop) (s : V) : V → List V → W → Prop
  | source : FirstPath E s s [s] 0
  | step {u v : V} {l : List V} {w c : W} : FirstPath E s u l w → v ≠ s → E u v c →
      (∀ l' w', Walk E s v l' w' → w + c ≤ w') →
      (∀ u' l' w' c', Walk E s u' l' w' → E u' v c' → w' + c' = w + c → w < w' ∨ (w = w' ∧ u ≤ u')) →
      FirstPath E s v (l ++ [v]) (w + c)

variable {E : V → V → W → Prop} {s : V}

theorem FirstPath.walk {v : V} {l : List V} {w : W} (h : FirstPath E s v l w) : Walk E s v l w := by
  induction h with
  | source => exact .source
  | step _ _ he _ _ ih => exact ih.step he

/-- Each step back is determined. -/
theorem FirstPath.unique {v : V} {l l' : List V} {w w' : W} (h : FirstPath E s v l w)
    (h' : FirstPath E s v l' w') : l = l' := by
  induction h generalizing l' w' with
  | source =>
    cases h' with
    | source => rfl
    | step _ hs => exact absurd rfl hs
  | @step u v l w c hu hs he hmin hfirst ih =>
    cases h' with
    | source => exact absurd rfl hs
    | @step u' _ l' w' c' hu' _ he' hmin' hfirst' =>
      have hsum : w + c = w' + c' :=
        le_antisymm (hmin _ _ (hu'.walk.step he')) (hmin' _ _ (hu.walk.step he))
      have hle := hfirst u' l' w' c' hu'.walk he' hsum.symm
      have hle' := hfirst' u l w c hu.walk he hsum
      have huu : u = u' := by
        rcases hle with hlt | ⟨rfl, hle⟩
        · rcases hle' with hlt' | ⟨rfl, -⟩
          · exact absurd (hlt.trans hlt') (lt_irrefl _)
          · exact absurd hlt (lt_irrefl _)
        · rcases hle' with hlt' | ⟨-, hle'⟩
          · exact absurd hlt' (lt_irrefl _)
          · exact le_antisymm hle hle'
      subst huu
      rw [ih hu']

/-! ## The search -/

/-- What a search keeps that settles nodes in this order. -/
structure Settled (E : V → V → W → Prop) (s : V) (inf d : W) (pending : V → V → W → Prop)
    (L : Labels V W) : Prop extends Inv E s inf d pending L where
  order : ∀ u v, L.visited u → ¬ L.visited v → NotAfter L.dist u v
  first : ∀ v u, v ≠ s → L.prev v = some u → L.visited u ∧ (∃ c, E u v c ∧ L.dist v = L.dist u + c) ∧
    ∀ u' c', L.visited u' → E u' v c' → ¬ pending u' v c' → L.dist u' + c' = L.dist v →
      NotAfter L.dist u u'

variable {inf d : W} {pending : V → V → W → Prop} {L : Labels V W}

theorem Settled.init (hinf : 0 < inf) (hs : L.dist s = 0) (hd : ∀ v, v ≠ s → L.dist v = inf)
    (hv : ∀ v, ¬ L.visited v) (hp : ∀ v, v ≠ s → L.prev v = none) :
    Settled E s inf 0 (fun _ _ _ => False) L where
  toInv := Inv.init hinf hs hd hv
  order u _ hu := absurd hu (hv u)
  first v u hvs hpv := by
    rw [hp v hvs] at hpv
    cases hpv

/-- Visiting the first of the nearest nodes. -/
theorem Settled.visit (h : Settled E s inf d (fun _ _ _ => False) L) {cur : V} (hc : ¬ L.visited cur)
    (hinf : L.dist cur < inf) (hmin : ∀ v, ¬ L.visited v → NotAfter L.dist cur v) :
    Settled E s inf (L.dist cur) (fun u _ _ => u = cur) (L.visit cur) where
  toInv := h.toInv.visit hc hinf fun v hv => (hmin v hv).le
  order u v hu hv := by
    rcases hu with rfl | hu
    · exact hmin v fun hv' => hv (.inr hv')
    · exact h.order u v hu fun hv' => hv (.inr hv')
  first v u hvs hp := by
    obtain ⟨hu, hedge, hfirst⟩ := h.first v u hvs hp
    refine ⟨.inr hu, hedge, fun u' c' hu' he hpend heq => ?_⟩
    rcases hu' with rfl | hu'
    · exact absurd rfl hpend
    · exact hfirst u' c' hu' he id heq

theorem Settled.of_pending (h : Settled E s inf d pending L) {pending' : V → V → W → Prop}
    (hp : ∀ u v c, E u v c → pending u v c → pending' u v c) : Settled E s inf d pending' L where
  toInv := h.toInv.of_pending hp
  order := h.order
  first v u hvs hpv := by
    obtain ⟨hu, hedge, hfirst⟩ := h.first v u hvs hpv
    exact ⟨hu, hedge, fun u' c' hu' he hn heq =>
      hfirst u' c' hu' he (fun hpend => hn (hp u' v c' he hpend)) heq⟩

variable [IsOrderedCancelAddMonoid W]

/-- An edge out of the last node visited whose end is already at least as near. -/
theorem Settled.relax_skip (h : Settled E s inf d pending L) {cur v : V} {c : W}
    (hE : ∀ u v c, E u v c → 0 < c) (hlast : ∀ u, L.visited u → NotAfter L.dist u cur) (hd : d ≤ L.dist cur)
    (he : E cur v c) (hskip : L.visited v ∨ L.dist v ≤ L.dist cur + c) :
    Settled E s inf d (fun u x b => pending u x b ∧ ¬ (u = cur ∧ x = v ∧ b = c)) L where
  toInv := h.toInv.relax_skip (fun u v c he => (hE u v c he).le) hd he hskip
  order := h.order
  first x u hxs hp := by
    obtain ⟨hu, hedge, hfirst⟩ := h.first x u hxs hp
    refine ⟨hu, hedge, fun u' c' hu' he' hn heq => ?_⟩
    by_cases hsame : u' = cur ∧ x = v ∧ c' = c
    · -- the end of the edge may be as near as before, from a node settled earlier
      obtain ⟨rfl, -, -⟩ := hsame
      exact hlast u hu
    · exact hfirst u' c' hu' he' (fun hpend => hn ⟨hpend, hsame⟩) heq

/-- A shorter way to `v`: no other node visited gives one as short. -/
theorem Settled.relax_improve [DecidableEq V] (h : Settled E s inf d pending L) {cur v : V} {c : W}
    (hE : ∀ u v c, E u v c → 0 < c) (hcur : L.visited cur) (hd : d ≤ L.dist cur) (he : E cur v c)
    (hpend : ∀ u x b, pending u x b → u = cur) (hv : ¬ L.visited v) (hlt : L.dist cur + c < L.dist v) :
    Settled E s inf d (fun u x b => pending u x b ∧ ¬ (u = cur ∧ x = v ∧ b = c)) (L.improve cur v c) := by
  have hinv := h.toInv.relax_improve (fun u v c he => (hE u v c he).le) hcur hd he hv hlt
  have hne : ∀ x, L.visited x → x ≠ v := fun x hx e => hv (e ▸ hx)
  have hkeep : ∀ x, x ≠ v → (L.improve cur v c).dist x = L.dist x := fun x hx =>
    Function.update_of_ne hx ..
  have hnew : (L.improve cur v c).dist v = L.dist cur + c := Function.update_self ..
  have hvis : ∀ x, (L.improve cur v c).visited x ↔ L.visited x := fun _ => Iff.rfl
  refine ⟨hinv, fun u x hu hx => ?_, fun x u hxs hp => ?_⟩
  · unfold NotAfter
    rw [hkeep u (hne u hu)]
    by_cases hxv : x = v
    · -- the new distance is still larger than that of every node visited
      subst hxv
      rw [hnew]
      exact .inl ((h.below u hu).trans_lt (hd.trans_lt (lt_add_of_pos_right _ (hE _ _ _ he))))
    · rw [hkeep x hxv]
      exact h.order u x hu hx
  · by_cases hxv : x = v
    · subst hxv
      have hpu : u = cur := by
        have hself : (L.improve cur x c).prev x = some cur := Function.update_self ..
        rw [hself] at hp
        exact (Option.some_inj.mp hp).symm
      subst hpu
      refine ⟨hcur, ⟨c, he, by rw [hnew, hkeep u (hne u hcur)]⟩, fun u' c' hu' he' hn heq => ?_⟩
      rw [hnew, hkeep u' (hne u' hu')] at heq
      by_cases hpe : pending u' x c'
      · rw [hpend u' x c' hpe]
        exact .inr ⟨rfl, le_rfl⟩
      · have hle := h.relaxed u' x c' hu' he' hpe
        exact absurd (heq ▸ hle) (not_le.mpr hlt)
    · have hpx : L.prev x = some u := by
        rw [← hp]
        exact (Function.update_of_ne hxv ..).symm
      obtain ⟨hu, ⟨b, hb, hdist⟩, hfirst⟩ := h.first x u hxs hpx
      refine ⟨hu, ⟨b, hb, by rw [hkeep x hxv, hkeep u (hne u hu), hdist]⟩, fun u' c' hu' he' hn heq => ?_⟩
      rw [hkeep x hxv, hkeep u' (hne u' hu')] at heq
      unfold NotAfter
      rw [hkeep u (hne u hu), hkeep u' (hne u' hu')]
      exact hfirst u' c' hu' he' (fun hpe => hn ⟨hpe, fun e => hxv e.2.1⟩) heq

/-! ## What it finds -/

theorem FirstPath.minimal (hE : ∀ u v c, E u v c → 0 ≤ c) {v : V} {l l' : List V} {w w' : W}
    (h : FirstPath E s v l w) (hw : Walk E s v l' w') : w ≤ w' := by
  cases h with
  | source => exact hw.weight_nonneg hE
  | step _ _ _ hmin => exact hmin l' w' hw

/-- The chain of predecessors of a node no farther than all nodes not visited is the first path. -/
theorem Settled.firstPath (h : Settled E s inf d (fun _ _ _ => False) L) (hE : ∀ u v c, E u v c → 0 < c)
    {v : V} {l : List V} {w : W} (hc : Chain E s L.prev v l w)
    (hnear : ∀ y, ¬ L.visited y → L.dist v ≤ L.dist y) : FirstPath E s v l (L.dist v) := by
  induction hc with
  | source =>
    rw [h.source]
    exact .source
  | @step u v l w c _ hp hvs _ he ih =>
    obtain ⟨hu, ⟨c', he', hdist⟩, hfirst⟩ := h.first v u hvs hp
    have hpath := ih (h.near_of_visited hu)
    rw [hdist]
    refine hpath.step hvs he' (fun l' w' hw' => hdist ▸ h.dist_le hE hnear hw') ?_
    intro u' l' w' b hw' hb hsum
    rw [← hdist] at hsum
    have hw'lt : w' < L.dist v := hsum ▸ lt_add_of_pos_right _ (hE _ _ _ hb)
    have hno : ¬ ∃ y, ¬ L.visited y ∧ L.dist y ≤ w' := by
      rintro ⟨y, hy, hyw⟩
      exact absurd ((hnear y hy).trans hyw) (not_le.mpr hw'lt)
    have hle : L.dist u' ≤ w' := by
      rcases h.walk_bound hE hw' with hle | ⟨y, hy, hyw⟩
      · exact hle
      · exact absurd ⟨y, hy, hyw.le⟩ hno
    have hu' : L.visited u' := by
      by_contra hn
      exact hno ⟨u', hn, hle⟩
    have hge : w' ≤ L.dist u' := by
      have hrel := h.relaxed u' v b hu' hb id
      rw [← hsum] at hrel
      exact le_of_add_le_add_right hrel
    have heq : w' = L.dist u' := le_antisymm hge hle
    have hnot := hfirst u' b hu' hb id (heq ▸ hsum)
    rw [heq]
    exact hnot

end Framework
