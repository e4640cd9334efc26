import Mathlib.Data.List.Infix
import Transit.Framework.Split

/-!
# What has been seen

A loop over a list often skips what it has met before: it keeps an element
unless the relation `r` has it (on the left) with one kept before (on the
right). `firsts` are the elements kept from here on (`firsts_cons`); beginning
with nothing kept they are those of `List.eraseDupsBy`. A coarser relation keeps
the same first `n` elements exactly when it tells these apart
(`take_eraseDupsBy_eq_iff`).

The keys of the elements kept may stand in a text, each between two fences. A
key is searched for between fences (`fenced_infix_iff`), or, where the end of
what is searched for has been cut off, behind one (`fence_infix_iff`).
-/

namespace Framework

variable {α β : Type*}

/-! ## First occurrences -/

/-- The elements that are kept, these being kept already. -/
def firsts (r : α → α → Bool) (kept xs : List α) : List α :=
  (xs.filter fun x => !kept.any (r x)).eraseDupsBy r

section

variable {r : α → α → Bool}

theorem firsts_empty (xs : List α) : firsts r [] xs = xs.eraseDupsBy r := by
  simp [firsts]

theorem firsts_cons_of_any {kept : List α} {x : α} (h : kept.any (r x) = true) (xs : List α) :
    firsts r kept (x :: xs) = firsts r kept xs := by
  simp [firsts, h]

theorem firsts_cons {kept : List α} {x : α} (h : kept.any (r x) = false) (xs : List α) :
    firsts r kept (x :: xs) = x :: firsts r (kept ++ [x]) xs := by
  unfold firsts
  rw [List.filter_cons_of_pos (by simpa using h), List.eraseDupsBy_cons, List.filter_filter]
  congr 2
  refine List.filter_congr fun y _ => ?_
  cases hy : r y x <;> simp [hy]

/-- No element kept is related to one kept before. -/
theorem firsts_apart (kept xs : List α) : (∀ x ∈ firsts r kept xs, kept.any (r x) = false) ∧
    (firsts r kept xs).Pairwise fun y x => r x y = false := by
  induction xs generalizing kept with
  | nil => exact ⟨List.forall_mem_nil _, .nil⟩
  | cons x xs ih =>
    cases hx : kept.any (r x) with
    | true =>
      rw [firsts_cons_of_any hx]
      exact ih kept
    | false =>
      obtain ⟨hkept, hpair⟩ := ih (kept ++ [x])
      have hboth : ∀ y ∈ firsts r (kept ++ [x]) xs, kept.any (r y) = false ∧ r y x = false := by
        intro y hy
        have hany := hkept y hy
        rw [List.any_append, Bool.or_eq_false_iff, List.any_cons, List.any_nil, Bool.or_false] at hany
        exact hany
      rw [firsts_cons hx, List.forall_mem_cons, List.pairwise_cons]
      exact ⟨⟨hx, fun y hy => (hboth y hy).1⟩, fun y hy => (hboth y hy).2, hpair⟩

/-- A coarser relation keeps the same where it tells apart what the finer one keeps. -/
theorem take_firsts_eq {e : α → α → Bool} (hle : ∀ x y, e x y = true → r x y = true) {kept xs : List α} {n : Nat}
    (hkept : ∀ x ∈ (firsts e kept xs).take n, kept.any (r x) = false)
    (hpair : ((firsts e kept xs).take n).Pairwise fun y x => r x y = false) :
    (firsts r kept xs).take n = (firsts e kept xs).take n := by
  induction xs generalizing kept n with
  | nil => rfl
  | cons x xs ih =>
    cases n with
    | zero => rfl
    | succ n =>
      cases hx : kept.any (e x) with
      | true =>
        have hxr : kept.any (r x) = true := by
          obtain ⟨y, hy, hxy⟩ := List.any_eq_true.mp hx
          exact List.any_eq_true.mpr ⟨y, hy, hle x y hxy⟩
        rw [firsts_cons_of_any hx] at hkept hpair ⊢
        rw [firsts_cons_of_any hxr]
        exact ih hkept hpair
      | false =>
        rw [firsts_cons hx, List.take_succ_cons] at hkept hpair ⊢
        rw [List.forall_mem_cons] at hkept
        rw [List.pairwise_cons] at hpair
        rw [firsts_cons hkept.1, List.take_succ_cons, ih ?_ hpair.2]
        intro y hy
        rw [List.any_append, hkept.2 y hy, List.any_cons, List.any_nil, hpair.1 y hy]
        rfl

theorem take_eraseDupsBy_eq_iff {e : α → α → Bool} (hle : ∀ x y, e x y = true → r x y = true) (xs : List α)
    (n : Nat) : (xs.eraseDupsBy r).take n = (xs.eraseDupsBy e).take n ↔
      ((xs.eraseDupsBy e).take n).Pairwise fun y x => r x y = false := by
  rw [← firsts_empty, ← firsts_empty]
  constructor
  · intro h
    rw [← h]
    exact (firsts_apart [] xs).2.sublist (List.take_sublist ..)
  · exact fun hpair => take_firsts_eq hle (fun _ _ => rfl) hpair

theorem eraseDupsBy_sublist (r : α → α → Bool) (xs : List α) : (xs.eraseDupsBy r).Sublist xs := by
  induction hn : xs.length using Nat.strongRecOn generalizing xs with
  | ind n ih =>
    cases xs with
    | nil => exact List.Sublist.refl _
    | cons x xs =>
      rw [List.eraseDupsBy_cons, List.cons_sublist_cons]
      refine (ih _ ?_ _ rfl).trans List.filter_sublist
      rw [← hn, List.length_cons]
      exact Nat.lt_succ_of_le (List.length_filter_le ..)

/-- What is there already adds nothing. -/
theorem eraseDupsBy_append_subset (hrefl : ∀ x, r x x = true) {xs ys : List α} (h : ys ⊆ xs) :
    (xs ++ ys).eraseDupsBy r = xs.eraseDupsBy r := by
  induction hn : xs.length using Nat.strongRecOn generalizing xs ys with
  | ind n ih =>
    cases xs with
    | nil => rw [List.subset_nil.mp h, List.append_nil]
    | cons x xs =>
      have hlt : (xs.filter fun y => r y x = false).length < n := by
        rw [← hn, List.length_cons]
        exact Nat.lt_succ_of_le (List.length_filter_le ..)
      have hsub : (ys.filter fun y => r y x = false) ⊆ xs.filter fun y => r y x = false := by
        intro y hy
        obtain ⟨hmem, hne⟩ := List.mem_filter.mp hy
        rcases List.mem_cons.mp (h hmem) with rfl | hxs
        · rw [hrefl] at hne
          exact absurd hne (by decide)
        · exact List.mem_filter.mpr ⟨hxs, hne⟩
      rw [List.cons_append, List.eraseDupsBy_cons, List.eraseDupsBy_cons, List.filter_append, ih _ hlt hsub rfl]

/-- Where only one key has elements, however often it comes up. -/
theorem eraseDupsBy_flatMap_only (hrefl : ∀ x, r x x = true) {f : β → List α} {keys : List β} {k : β} (hk : k ∈ keys)
    (h : ∀ other ∈ keys, other ≠ k → f other = []) : (keys.flatMap f).eraseDupsBy r = (f k).eraseDupsBy r := by
  induction keys with
  | nil => cases hk
  | cons key keys ih =>
    rw [List.forall_mem_cons] at h
    by_cases hkey : key = k
    · subst hkey
      refine eraseDupsBy_append_subset hrefl fun x hx => ?_
      obtain ⟨other, hother, hx⟩ := List.mem_flatMap.mp hx
      by_cases hsame : other = key
      · exact hsame ▸ hx
      · rw [h.2 other hother hsame] at hx
        cases hx
    · rw [List.flatMap_cons, h.1 hkey, List.nil_append]
      exact ih ((List.mem_cons.mp hk).resolve_left (Ne.symm hkey)) h.2

/-- The keys of the elements kept. -/
theorem map_eraseDupsBy [BEq β] [LawfulBEq β] {key : α → β} (xs : List α) :
    (xs.eraseDupsBy (key · == key ·)).map key = (xs.map key).eraseDups := by
  induction hn : xs.length using Nat.strongRecOn generalizing xs with
  | ind n ih =>
    cases xs with
    | nil => rfl
    | cons x xs =>
      rw [List.eraseDupsBy_cons, List.map_cons, List.map_cons, List.eraseDups_cons, List.filter_map,
        ← ih _ (by rw [← hn, List.length_cons]; exact Nat.lt_succ_of_le (List.length_filter_le ..)) _ rfl]
      congr 3
      refine List.filter_congr fun y _ => ?_
      by_cases h : key y = key x <;> simp [h]

end

/-! ## Keys between fences -/

section

variable {c : α}

/-- A key between two fences. -/
def fenced (c : α) (k : List α) : List α := c :: (k ++ [c])

/-- The text that keeps these keys. -/
def fences (c : α) (ks : List (List α)) : List α := ks.flatMap (fenced c)

theorem fences_concat (ks : List (List α)) (k : List α) : fences c (ks ++ [k]) = fences c ks ++ fenced c k := by
  simp [fences]

theorem length_fences (ks : List (List α)) : (fences c ks).length = (ks.map (·.length + 2)).sum := by
  induction ks with
  | nil => rfl
  | cons k ks ih =>
    rw [List.map_cons, List.sum_cons, ← ih]
    unfold fences fenced
    rw [List.flatMap_cons, List.length_append, List.length_cons, List.length_append, List.length_singleton]

variable [DecidableEq α] {k : List α} {ks : List (List α)}

/-- What stands between two fences is a token. -/
theorem mem_tokens_of_infix (hc : c ∉ k) (hne : k ≠ []) {s : List α} (h : fenced c k <:+: s) : k ∈ tokens c s := by
  obtain ⟨a, b, rfl⟩ := h
  rw [show a ++ fenced c k ++ b = a ++ c :: (k ++ c :: b) by simp [fenced], tokens_append_cons, tokens_append_cons,
    tokens_of_not_mem hc hne]
  exact List.mem_append_right _ (List.mem_append_left _ (List.mem_singleton_self k))

theorem tokens_fences (hc : ∀ k ∈ ks, c ∉ k) (hne : ∀ k ∈ ks, k ≠ []) : tokens c (fences c ks) = ks := by
  induction ks with
  | nil => exact tokens_nil
  | cons k ks ih =>
    rw [List.forall_mem_cons] at hc hne
    rw [show fences c (k :: ks) = [] ++ c :: (k ++ c :: fences c ks) by simp [fences, fenced], tokens_append_cons,
      tokens_append_cons, tokens_nil, tokens_of_not_mem hc.1 hne.1, ih hc.2 hne.2]
    rfl

theorem fenced_infix_iff (hks : ∀ k ∈ ks, c ∉ k) (hks' : ∀ k ∈ ks, k ≠ []) (hc : c ∉ k) (hne : k ≠ []) :
    fenced c k <:+: fences c ks ↔ k ∈ ks := by
  constructor
  · intro h
    rw [← tokens_fences hks hks']
    exact mem_tokens_of_infix hc hne h
  · intro h
    exact List.infix_of_mem_flatten (List.mem_map_of_mem h)

/-- What stands behind a fence begins a token. -/
theorem exists_token_of_infix (hc : c ∉ k) (hne : k ≠ []) {s : List α} (h : c :: k <:+: s) :
    ∃ t ∈ tokens c s, k <+: t := by
  obtain ⟨a, b, rfl⟩ := h
  rw [List.append_assoc, List.cons_append, tokens_append_cons]
  cases hb : cutAt c b with
  | none =>
    have hkb : c ∉ k ++ b := fun hm => (List.mem_append.mp hm).elim hc (cutAt_eq_none.mp hb)
    rw [tokens_of_not_mem hkb (List.append_ne_nil_of_left_ne_nil hne _)]
    exact ⟨k ++ b, List.mem_append_right _ (List.mem_singleton_self _), List.prefix_append ..⟩
  | some p =>
    obtain ⟨rfl, hp⟩ := cutAt_eq_some.mp hb
    have hkp : c ∉ k ++ p.1 := fun hm => (List.mem_append.mp hm).elim hc hp
    rw [← List.append_assoc, tokens_append_cons, tokens_of_not_mem hkp (List.append_ne_nil_of_left_ne_nil hne _)]
    exact ⟨k ++ p.1, List.mem_append_right _ (List.mem_append_left _ (List.mem_singleton_self _)),
      List.prefix_append ..⟩

theorem fence_infix_iff (hks : ∀ k ∈ ks, c ∉ k) (hks' : ∀ k ∈ ks, k ≠ []) (hc : c ∉ k) (hne : k ≠ []) :
    c :: k <:+: fences c ks ↔ ∃ t ∈ ks, k <+: t := by
  constructor
  · intro h
    have hex := exists_token_of_infix hc hne h
    rw [tokens_fences hks hks'] at hex
    exact hex
  · rintro ⟨t, ht, rest, rfl⟩
    have hpart : c :: k <:+: fenced c (k ++ rest) := ⟨[], rest ++ [c], by simp [fenced]⟩
    exact hpart.trans (List.infix_of_mem_flatten (List.mem_map_of_mem ht))

end

end Framework
