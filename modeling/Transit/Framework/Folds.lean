import Mathlib.Data.List.Forall2
import Mathlib.Order.Lattice

/-!
# Loops over lists

`outputs` is what a loop puts out at each element. Two loops over lists that
match put out the same when a relation between their variables is kept
(`outputs_eq_outputs`); loops that can fail are followed by `foldlM_follows`,
`foldlM_range` and `mapM_map`. `adjacent` counts the neighbours in a list that are
related; where the relation is symmetric the count is that of the reversed list.
`keepLess` is the step of a search for the least value below a bound
(`foldl_keepLess`).
-/

namespace Framework

variable {σ τ α β γ : Type*}

/-- What a loop puts out at each element, from the variables before its step. -/
def outputs (step : σ → α → σ) (out : σ → α → γ) : List α → σ → List γ
  | [], _ => []
  | a :: as, s => out s a :: outputs step out as (step s a)

/-- The step of a simulation between two loops. -/
def StepsMatch (step : σ → α → σ) (out : σ → α → γ) (step' : τ → β → τ) (out' : τ → β → γ)
    (R : σ → τ → Prop) (a : α) (b : β) : Prop :=
  ∀ s t, R s t → out s a = out' t b ∧ R (step s a) (step' t b)

theorem outputs_eq_outputs {step : σ → α → σ} {out : σ → α → γ} {step' : τ → β → τ} {out' : τ → β → γ}
    {R : σ → τ → Prop} {as : List α} {bs : List β} (h : List.Forall₂ (StepsMatch step out step' out' R) as bs)
    {s : σ} {t : τ} (hR : R s t) : outputs step out as s = outputs step' out' bs t := by
  induction h generalizing s t with
  | nil => rfl
  | cons hstep _ ih =>
    obtain ⟨hout, hnext⟩ := hstep s t hR
    rw [outputs, outputs, hout, ih hnext]

/-- A loop whose steps can fail follows one whose steps cannot, where every step
that starts at related variables does. -/
theorem foldlM_follows {step : σ → α → Option σ} {step' : τ → α → τ} {R : σ → τ → Prop} {l : List α}
    (h : ∀ a ∈ l, ∀ s t, R s t → ∃ s', step s a = some s' ∧ R s' (step' t a)) {s : σ} {t : τ} (hR : R s t) :
    ∃ s', l.foldlM step s = some s' ∧ R s' (l.foldl step' t) := by
  induction l generalizing s t with
  | nil => exact ⟨s, rfl, hR⟩
  | cons a l ih =>
    rw [List.forall_mem_cons] at h
    obtain ⟨s₁, hstep, hR₁⟩ := h.1 s t hR
    obtain ⟨s', hrest, hR'⟩ := ih h.2 hR₁
    exact ⟨s', by rw [List.foldlM_cons, hstep]; exact hrest, hR'⟩

/-- A loop over the numbers below `n` whose variables are known at each. -/
theorem foldlM_range {step : σ → Nat → Option σ} {state : Nat → σ} {n : Nat}
    (h : ∀ i < n, step (state i) i = some (state (i + 1))) : (List.range n).foldlM step (state 0) = some (state n) := by
  induction n with
  | zero => rfl
  | succ n ih =>
    rw [List.range_succ, List.foldlM_append, ih fun i hi => h i (Nat.lt_succ_of_lt hi)]
    show (step (state n) n).bind _ = _
    rw [h n (Nat.lt_succ_self n)]
    rfl

/-- A step that can fail, done to the elements of a list one by one, where it does not. -/
theorem mapM_map {f : β → Option γ} {v : α → β} {g : α → γ} {l : List α} (h : ∀ a ∈ l, f (v a) = some (g a)) :
    (l.map v).mapM f = some (l.map g) := by
  induction l with
  | nil => rfl
  | cons a l ih =>
    rw [List.forall_mem_cons] at h
    rw [List.map_cons, List.mapM_cons, h.1, ih h.2]
    rfl

/-- The number of neighbours that are related. -/
def adjacent (p : α → α → Bool) : List α → Nat
  | a :: b :: l => (p a b).toNat + adjacent p (b :: l)
  | _ => 0

theorem adjacent_concat (p : α → α → Bool) (l : List α) (a : α) :
    adjacent p (l ++ [a]) = adjacent p l + (l.getLast?.any (p · a)).toNat := by
  induction l with
  | nil => rfl
  | cons b l ih =>
    cases l with
    | nil => simp [adjacent]
    | cons c l =>
      rw [List.cons_append, List.cons_append, adjacent, adjacent, ← List.cons_append, ih, List.getLast?_cons_cons,
        Nat.add_assoc]

theorem adjacent_reverse {p : α → α → Bool} (hp : ∀ a b, p a b = p b a) (l : List α) :
    adjacent p l.reverse = adjacent p l := by
  induction l with
  | nil => rfl
  | cons a l ih =>
    rw [List.reverse_cons, adjacent_concat, ih, List.getLast?_reverse]
    cases l with
    | nil => rfl
    | cons b l =>
      rw [List.head?_cons, Option.any_some, adjacent, hp b a, Nat.add_comm]

/-- A smaller value replaces the best one so far, and the element it was found at. -/
def keepLess {β : Type*} [LinearOrder β] (f : α → β) (best : β × Option α) (a : α) : β × Option α :=
  if f a < best.1 then (f a, some a) else best

/-- The loop ends with the least value, or with what it started from if that is no greater. -/
theorem foldl_keepLess {β : Type*} [LinearOrder β] (f : α → β) (l : List α) (best : β × Option α) :
    (∀ a ∈ l, (l.foldl (keepLess f) best).1 ≤ f a) ∧
    (l.foldl (keepLess f) best = best ∨
      ∃ a ∈ l, l.foldl (keepLess f) best = (f a, some a) ∧ f a < best.1) := by
  induction l generalizing best with
  | nil => exact ⟨List.forall_mem_nil _, .inl rfl⟩
  | cons a l ih =>
    obtain ⟨hleast, hfound⟩ := ih (keepLess f best a)
    rw [List.foldl_cons, List.forall_mem_cons]
    by_cases hless : f a < best.1
    · have hstep : keepLess f best a = (f a, some a) := if_pos hless
      rw [hstep] at hleast hfound ⊢
      rcases hfound with heq | ⟨b, hb, heq, hlt⟩
      · exact ⟨⟨le_of_eq (congrArg Prod.fst heq), hleast⟩, .inr ⟨a, List.mem_cons_self .., heq, hless⟩⟩
      · refine ⟨⟨?_, hleast⟩, .inr ⟨b, List.mem_cons_of_mem _ hb, heq, lt_trans hlt hless⟩⟩
        rw [heq]
        exact le_of_lt hlt
    · have hstep : keepLess f best a = best := if_neg hless
      rw [hstep] at hleast hfound ⊢
      rcases hfound with heq | ⟨b, hb, heq, hlt⟩
      · refine ⟨⟨?_, hleast⟩, .inl heq⟩
        rw [heq]
        exact not_lt.mp hless
      · refine ⟨⟨?_, hleast⟩, .inr ⟨b, List.mem_cons_of_mem _ hb, heq, hlt⟩⟩
        rw [heq]
        exact le_trans (le_of_lt hlt) (not_lt.mp hless)

end Framework
