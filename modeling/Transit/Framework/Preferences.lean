import Mathlib.Data.List.Basic
import Mathlib.Tactic.Common

/-!
# Searching by preferences

A search that prefers some elements to others returns the first one of the best
preference that any element has (`firstBy`); scans that keep candidates compute
it index by index (`map_findIdx?_cons`). One more preference changes what is
found only for an element that lacks it where a later one has it
(`firstBy_insert`).
-/

namespace Framework

variable {α : Type*}

/-- The index of the first element of the best preference that any has. -/
def firstBy (ps : List (α → Bool)) (l : List α) : Option Nat := ps.findSome? (l.findIdx? ·)

variable {ps : List (α → Bool)} {p q : α → Bool} {l : List α}

@[simp] theorem firstBy_nil (l : List α) : firstBy [] l = none := rfl

@[simp] theorem firstBy_cons (p : α → Bool) (ps : List (α → Bool)) (l : List α) :
    firstBy (p :: ps) l = (l.findIdx? p).or (firstBy ps l) := by
  unfold firstBy
  rw [List.findSome?_cons]
  cases l.findIdx? p <;> rfl

theorem firstBy_append (ps qs : List (α → Bool)) (l : List α) :
    firstBy (ps ++ qs) l = (firstBy ps l).or (firstBy qs l) := List.findSome?_append

theorem firstBy_eq_none_iff : firstBy ps l = none ↔ ∀ p ∈ ps, ∀ x ∈ l, p x = false := by
  simp only [firstBy, List.findSome?_eq_none_iff, List.findIdx?_eq_none_iff]

theorem firstBy_lt {i : Nat} (h : firstBy ps l = some i) : i < l.length := by
  obtain ⟨p, -, hp⟩ := List.exists_of_findSome?_eq_some h
  exact (List.findIdx?_eq_some_iff_getElem.mp hp).1

/-- A scan from index `i` on either is at the first element or goes on. -/
theorem map_findIdx?_cons (p : α → Bool) (x : α) (l : List α) (i : Nat) :
    ((x :: l).findIdx? p).map (i + ·) = if p x then some i else (l.findIdx? p).map (i + 1 + ·) := by
  rw [List.findIdx?_cons]
  split
  · rfl
  · rw [Option.map_map]
    congr 1
    funext k
    show i + (k + 1) = i + 1 + k
    omega

/-- The element at `j` lacks `q`, a later one has it, and no better preference decides. -/
structure Outranked (ps : List (α → Bool)) (q : α → Bool) (l : List α) (j : Nat) : Prop where
  undecided : ∀ p ∈ ps, ∀ x ∈ l, p x = false
  lacks : ∀ x, l[j]? = some x → q x = false
  later : ∃ k x, j < k ∧ l[k]? = some x ∧ q x = true

/-- The first element behind `j` that has `q`. -/
structure FirstLater (q : α → Bool) (l : List α) (j i : Nat) : Prop where
  behind : j < i
  has : ∃ x, l[i]? = some x ∧ q x = true
  first : ∀ k x, j < k → k < i → l[k]? = some x → q x = false

theorem findIdx?_first {i : Nat} (h : l.findIdx? p = some i) :
    (∃ x, l[i]? = some x ∧ p x = true) ∧ ∀ k x, k < i → l[k]? = some x → p x = false := by
  obtain ⟨hi, hp, hfirst⟩ := List.findIdx?_eq_some_iff_getElem.mp h
  refine ⟨⟨l[i], List.getElem?_eq_getElem hi, hp⟩, fun k x hk hx => ?_⟩
  obtain ⟨-, rfl⟩ := List.getElem?_eq_some_iff.mp hx
  exact Bool.eq_false_iff.mpr (hfirst k hk)

/-- A weaker preference is met earlier, unless the element found for it has the stronger one. -/
theorem findIdx?_weaker (hqp : ∀ x, q x = true → p x = true) {k : Nat} (hq : l.findIdx? q = some k) :
    ∃ j, l.findIdx? p = some j ∧ j ≤ k ∧ (k ≠ j ↔ ∀ x, l[j]? = some x → q x = false) := by
  obtain ⟨⟨x, hx, hqx⟩, hfirst⟩ := findIdx?_first hq
  have hpx := hqp x hqx
  cases hp : l.findIdx? p with
  | none =>
    rw [List.findIdx?_eq_none_iff.mp hp x (List.mem_of_getElem? hx)] at hpx
    cases hpx
  | some j =>
    obtain ⟨⟨y, hy, -⟩, hbefore⟩ := findIdx?_first hp
    have hle : j ≤ k := Nat.not_lt.mp fun hlt => by
      rw [hbefore k x hlt hx] at hpx
      cases hpx
    refine ⟨j, rfl, hle, fun hne z hz => hfirst j z (by omega) hz, ?_⟩
    rintro hlacks rfl
    rw [hlacks x hx] at hqx
    cases hqx

/-- A preference `q` put in front of the last one, which it implies. -/
theorem firstBy_insert (hqp : ∀ x, q x = true → p x = true) :
    (firstBy (ps ++ [q, p]) l = none ↔ firstBy (ps ++ [p]) l = none) ∧
    ∀ {i j : Nat}, firstBy (ps ++ [q, p]) l = some i → firstBy (ps ++ [p]) l = some j →
      (i ≠ j ↔ Outranked ps q l j) ∧ (Outranked ps q l j → FirstLater q l j i) := by
  rw [firstBy_append, firstBy_append]
  simp only [firstBy_cons, firstBy_nil, Option.or_none]
  cases hps : firstBy ps l with
  | some k =>
    -- a better preference decides both
    have hdecided : ∀ j, ¬ Outranked ps q l j := fun j h =>
      Option.some_ne_none k (hps.symm.trans (firstBy_eq_none_iff.mpr h.undecided))
    refine ⟨iff_of_false (by simp) (by simp), fun hi hj => ?_⟩
    obtain rfl := Option.some_inj.mp hi
    obtain rfl := Option.some_inj.mp hj
    exact ⟨iff_of_false (fun h => h rfl) (hdecided _), fun h => absurd h (hdecided _)⟩
  | none =>
    rw [Option.none_or, Option.none_or]
    cases hq : l.findIdx? q with
    | none =>
      rw [Option.none_or]
      have hnone := List.findIdx?_eq_none_iff.mp hq
      have hlast : ∀ j, ¬ Outranked ps q l j := fun j h => by
        obtain ⟨k, x, -, hx, hqx⟩ := h.later
        rw [hnone x (List.mem_of_getElem? hx)] at hqx
        cases hqx
      refine ⟨Iff.rfl, fun hi hj => ?_⟩
      obtain rfl := Option.some_inj.mp (hi.symm.trans hj)
      exact ⟨iff_of_false (fun h => h rfl) (hlast _), fun h => absurd h (hlast _)⟩
    | some k =>
      obtain ⟨⟨x, hx, hqx⟩, hfirst⟩ := findIdx?_first hq
      obtain ⟨j, hp, hle, hlacks⟩ := findIdx?_weaker hqp hq
      rw [Option.some_or, hp]
      refine ⟨iff_of_false (Option.some_ne_none _) (Option.some_ne_none _), fun {i j'} hi hj => ?_⟩
      obtain rfl := Option.some_inj.mp hi
      obtain rfl := Option.some_inj.mp hj
      have hiff : k ≠ j ↔ Outranked ps q l j :=
        ⟨fun hne => ⟨firstBy_eq_none_iff.mp hps, hlacks.mp hne, k, x, by omega, hx, hqx⟩, fun h => hlacks.mpr h.lacks⟩
      refine ⟨hiff, fun h => ⟨?_, ⟨x, hx, hqx⟩, fun m z _ hm hz => hfirst m z hm hz⟩⟩
      have hne := hiff.mpr h
      omega

end Framework
