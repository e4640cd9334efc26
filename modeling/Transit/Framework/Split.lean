import Mathlib.Algebra.GroupWithZero.Nat
import Mathlib.Data.List.Basic
import Mathlib.Tactic.Common

/-!
# Cutting lists at separators

The ways a program that looks for separators in place takes a list apart: at
the first separator (`cutAt`) or the last (`cutLast`), into at most `n` fields (`cutFields`, which
keeps empty fields), at the first `n` separators (`cutHead`, which drops
nothing) and into its pieces, without empty ones (`tokens`) or without an empty
one at the end (`pieces`); each undoes joining with the separator on pieces that do not contain it.
`cells` cuts at the separators that are not in quotes, which are those with an
even number of quotes before them (`segments`); of fields that were written in
quotes (`quoted`) it gives back all but the quotes.
-/

namespace Framework

variable {α : Type*} [DecidableEq α]

/-- What stands before and after the first `c`. -/
def cutAt (c : α) : List α → Option (List α × List α)
  | [] => none
  | x :: s => if x = c then some ([], s) else (cutAt c s).map fun p => (x :: p.1, p.2)

/-- What stands before and after the last `c`. -/
def cutLast (c : α) (s : List α) : Option (List α × List α) :=
  (cutAt c s.reverse).map fun p => (p.2.reverse, p.1.reverse)

/-- At most `n` fields separated by `c`; what follows the last of `n` is dropped. -/
def cutFields (c : α) : Nat → List α → List (List α)
  | 0, _ => []
  | n + 1, s =>
    match cutAt c s with
    | none => [s]
    | some (a, b) => a :: cutFields c n b

/-- The fields before the first `n` separators, and everything behind them. -/
def cutHead (c : α) : Nat → List α → List (List α)
  | 0, s => [s]
  | n + 1, s =>
    match cutAt c s with
    | none => [s]
    | some (a, b) => a :: cutHead c n b

/-- The non-empty pieces between separators. -/
def tokens (c : α) (s : List α) : List (List α) := (s.splitOn c).filter (· ≠ [])

/-- The pieces between separators, without an empty one at the end. -/
def pieces (c : α) (s : List α) : List (List α) :=
  if (s.splitOn c).getLast? = some [] then (s.splitOn c).dropLast else s.splitOn c

/-- What stands between the separators that are not in quotes, without the quotes. -/
def cells (sep quote : α) : Bool → List α → List (List α)
  | _, [] => [[]]
  | inQuotes, a :: s =>
    if a = quote then cells sep quote (!inQuotes) s
    else if a = sep ∧ inQuotes = false then [] :: cells sep quote inQuotes s
    else (cells sep quote inQuotes s).modifyHead (a :: ·)

/-- Whether the element `p.1` at `p.2` is a separator with an even number of quotes before it. -/
def isOpenSep (sep quote : α) (s : List α) (p : α × Nat) : Bool :=
  decide (p.1 = sep) && (s.take p.2).count quote % 2 == 0

/-- What stands between the separators with an even number of quotes before them. -/
def segments (sep quote : α) (s : List α) : List (List α) :=
  (s.zipIdx.splitOnP (isOpenSep sep quote s)).map (·.map Prod.fst)

/-- A field in quotes, its own quotes doubled. -/
def quoted (quote : α) (s : List α) : List α :=
  quote :: s.flatMap (fun a => if a = quote then [quote, quote] else [a]) ++ [quote]

variable {c : α} {s a b : List α}

theorem cutAt_eq_none : cutAt c s = none ↔ c ∉ s := by
  induction s with
  | nil => simp [cutAt]
  | cons x s ih =>
    simp only [cutAt]
    split
    · rename_i h; simp [h]
    · rename_i h; simp [ih, Ne.symm h]

theorem cutAt_append (h : c ∉ a) (b : List α) : cutAt c (a ++ c :: b) = some (a, b) := by
  induction a with
  | nil => simp [cutAt]
  | cons x a ih =>
    simp only [List.mem_cons, not_or] at h
    simp only [List.cons_append, cutAt, Ne.symm h.1, ↓reduceIte, ih h.2, Option.map_some]

theorem cutLast_append (a : List α) (h : c ∉ b) : cutLast c (a ++ c :: b) = some (a, b) := by
  unfold cutLast
  rw [List.reverse_append, List.reverse_cons, List.append_assoc, List.singleton_append,
    cutAt_append (by rwa [List.mem_reverse]), Option.map_some, List.reverse_reverse, List.reverse_reverse]

theorem cutAt_eq_some : cutAt c s = some (a, b) ↔ s = a ++ c :: b ∧ c ∉ a := by
  refine ⟨fun h => ?_, fun ⟨h, hc⟩ => h ▸ cutAt_append hc b⟩
  induction s generalizing a with
  | nil => simp [cutAt] at h
  | cons x s ih =>
    simp only [cutAt] at h
    split at h
    · rename_i hx
      simp only [Option.some.injEq, Prod.mk.injEq] at h
      obtain ⟨rfl, rfl⟩ := h
      simp [hx]
    · rename_i hx
      simp only [Option.map_eq_some_iff] at h
      obtain ⟨⟨a', b'⟩, h, heq⟩ := h
      simp only [Prod.mk.injEq] at heq
      obtain ⟨rfl, rfl⟩ := heq
      obtain ⟨rfl, hc⟩ := ih h
      simp [hc, Ne.symm hx]

/-- A cut takes nothing away but the separator. -/
theorem length_cutAt (h : cutAt c s = some (a, b)) : a.length + b.length + 1 = s.length := by
  rw [(cutAt_eq_some.mp h).1]; simp only [List.length_append, List.length_cons]; omega

theorem cutFields_of_not_mem (n : Nat) (h : c ∉ s) : cutFields c (n + 1) s = [s] := by
  simp only [cutFields, cutAt_eq_none.mpr h]

theorem cutFields_append (n : Nat) (h : c ∉ a) (b : List α) :
    cutFields c (n + 1) (a ++ c :: b) = a :: cutFields c n b := by
  simp only [cutFields, cutAt_append h]

/-- Cutting into enough fields undoes joining. -/
theorem cutFields_intercalate {n : Nat} {ls : List (List α)} (hc : ∀ l ∈ ls, c ∉ l)
    (hne : ls ≠ []) (hn : ls.length ≤ n) : cutFields c n ([c].intercalate ls) = ls := by
  induction ls generalizing n with
  | nil => exact absurd rfl hne
  | cons l ls ih =>
    obtain ⟨n, rfl⟩ : ∃ k, n = k + 1 := ⟨n - 1, by simp only [List.length_cons] at hn; omega⟩
    have hl := hc l (List.mem_cons_self ..)
    cases ls with
    | nil => rw [List.intercalate_singleton, cutFields_of_not_mem n hl]
    | cons l' ls =>
      rw [List.intercalate_cons_cons, List.append_assoc, List.singleton_append,
        cutFields_append n hl, ih (fun x hx => hc x (List.mem_cons_of_mem _ hx))
          (List.cons_ne_nil _ _) (Nat.le_of_succ_le_succ hn)]

omit [DecidableEq α] in
/-- Joining a list is appending its separated elements to the first. -/
theorem intercalate_cons_eq_flatMap (c : α) (l : List α) (ls : List (List α)) :
    [c].intercalate (l :: ls) = l ++ ls.flatMap (c :: ·) := by
  induction ls generalizing l with
  | nil => simp
  | cons l' ls ih =>
    rw [List.intercalate_cons_cons, ih, List.flatMap_cons]
    simp

omit [DecidableEq α] in
theorem not_mem_intercalate {d : α} (hd : d ≠ c) {ls : List (List α)} (h : ∀ l ∈ ls, d ∉ l) :
    d ∉ [c].intercalate ls := by
  cases ls with
  | nil => simp
  | cons l ls =>
    rw [List.forall_mem_cons] at h
    rw [intercalate_cons_eq_flatMap, List.mem_append, not_or]
    refine ⟨h.1, fun hm => ?_⟩
    obtain ⟨l', hl', hm⟩ := List.mem_flatMap.mp hm
    exact (List.mem_cons.mp hm).elim hd (h.2 l' hl')

theorem cutHead_ne_nil (n : Nat) (s : List α) : cutHead c n s ≠ [] := by
  cases n with
  | zero => exact List.cons_ne_nil _ _
  | succ n =>
    unfold cutHead
    split
    · exact List.cons_ne_nil _ _
    · exact List.cons_ne_nil _ _

/-- Cutting at the first separators loses nothing. -/
theorem intercalate_cutHead (n : Nat) (s : List α) : [c].intercalate (cutHead c n s) = s := by
  induction n generalizing s with
  | zero => exact List.intercalate_singleton ..
  | succ n ih =>
    unfold cutHead
    cases hcut : cutAt c s with
    | none => exact List.intercalate_singleton ..
    | some p =>
      obtain ⟨hs, -⟩ := cutAt_eq_some.mp hcut
      obtain ⟨f, fs, hfs⟩ := List.exists_cons_of_ne_nil (cutHead_ne_nil (c := c) n p.2)
      have hrest := ih p.2
      dsimp only
      rw [hfs] at hrest ⊢
      rw [List.intercalate_cons_cons, hrest, hs, List.append_assoc, List.singleton_append]

/-- The fields before the separators do not contain any. -/
theorem not_mem_cutHead (n : Nat) (s : List α) : ∀ f ∈ (cutHead c n s).take n, c ∉ f := by
  induction n generalizing s with
  | zero => exact List.forall_mem_nil _
  | succ n ih =>
    unfold cutHead
    cases hcut : cutAt c s with
    | none =>
      intro f hf
      rw [List.mem_singleton.mp (List.mem_of_mem_take hf)]
      exact cutAt_eq_none.mp hcut
    | some p =>
      obtain ⟨-, hc⟩ := cutAt_eq_some.mp hcut
      dsimp only
      rw [List.take_succ_cons, List.forall_mem_cons]
      exact ⟨hc, ih p.2⟩

/-- Cutting at enough separators undoes joining; the last field may contain some. -/
theorem cutHead_intercalate {n : Nat} {ls : List (List α)} (hc : ∀ l ∈ ls.take n, c ∉ l) (hne : ls ≠ [])
    (hn : ls.length ≤ n + 1) : cutHead c n ([c].intercalate ls) = ls := by
  induction n generalizing ls with
  | zero =>
    obtain ⟨l, rfl⟩ := List.length_eq_one_iff.mp (Nat.le_antisymm hn (List.length_pos_of_ne_nil hne))
    rw [List.intercalate_singleton]
    rfl
  | succ n ih =>
    obtain ⟨l, ls, rfl⟩ := List.exists_cons_of_ne_nil hne
    rw [List.take_succ_cons, List.forall_mem_cons] at hc
    unfold cutHead
    cases ls with
    | nil => rw [List.intercalate_singleton, cutAt_eq_none.mpr hc.1]
    | cons l' ls =>
      rw [List.intercalate_cons_cons, List.append_assoc, List.singleton_append, cutAt_append hc.1]
      dsimp only
      rw [ih hc.2 (List.cons_ne_nil _ _) (Nat.le_of_succ_le_succ hn)]

@[simp] theorem pieces_nil : pieces c [] = [] := by simp [pieces, List.splitOn_nil]

theorem pieces_of_not_mem (h : c ∉ s) (hne : s ≠ []) : pieces c s = [s] := by
  simp [pieces, List.splitOn_eq_singleton h, hne]

theorem pieces_append_cons (h : c ∉ a) (b : List α) : pieces c (a ++ c :: b) = a :: pieces c b := by
  obtain ⟨p, ps, hps⟩ := List.exists_cons_of_ne_nil (List.splitOn_ne_nil c b)
  unfold pieces
  rw [List.splitOn_append_cons_self_of_not_mem h, hps, List.getLast?_cons_cons]
  split
  · rw [List.dropLast_cons_of_ne_nil (List.cons_ne_nil _ _)]
  · rfl

/-- Splitting into pieces undoes joining parts of which the last is not empty. -/
theorem pieces_intercalate {ls : List (List α)} (hc : ∀ l ∈ ls, c ∉ l) (hlast : ls.getLast? ≠ some []) :
    pieces c ([c].intercalate ls) = ls := by
  induction ls with
  | nil => exact pieces_nil
  | cons l ls ih =>
    rw [List.forall_mem_cons] at hc
    cases ls with
    | nil =>
      rw [List.intercalate_singleton]
      exact pieces_of_not_mem hc.1 fun hl => hlast (by rw [hl]; rfl)
    | cons l' ls =>
      rw [List.getLast?_cons_cons] at hlast
      rw [List.intercalate_cons_cons, List.append_assoc, List.singleton_append, pieces_append_cons hc.1, ih hc.2 hlast]

@[simp] theorem tokens_nil : tokens c [] = [] := by simp [tokens, List.splitOn_nil]

theorem tokens_append_cons (a b : List α) : tokens c (a ++ c :: b) = tokens c a ++ tokens c b := by
  simp only [tokens, List.splitOn_append_cons_self, List.filter_append]

theorem tokens_of_not_mem (h : c ∉ s) (hne : s ≠ []) : tokens c s = [s] := by
  simp [tokens, List.splitOn_eq_singleton h, hne]

/-- The tokens of a joined list are those of its parts. -/
theorem tokens_intercalate_eq_flatMap (ls : List (List α)) :
    tokens c ([c].intercalate ls) = ls.flatMap (tokens c) := by
  induction ls with
  | nil => simp
  | cons l ls ih =>
    cases ls with
    | nil => simp
    | cons l' ls =>
      rw [List.intercalate_cons_cons, List.append_assoc, List.singleton_append,
        tokens_append_cons, ih]
      rfl

/-- Splitting into tokens undoes joining non-empty parts. -/
theorem tokens_intercalate {ls : List (List α)} (hc : ∀ l ∈ ls, c ∉ l) (hne : ∀ l ∈ ls, l ≠ []) :
    tokens c ([c].intercalate ls) = ls := by
  rw [tokens_intercalate_eq_flatMap]
  induction ls with
  | nil => rfl
  | cons l ls ih =>
    rw [List.flatMap_cons, tokens_of_not_mem (hc l (List.mem_cons_self ..)) (hne l (List.mem_cons_self ..)),
      ih (fun x hx => hc x (List.mem_cons_of_mem _ hx)) fun x hx => hne x (List.mem_cons_of_mem _ hx),
      List.singleton_append]

/-- The separators of a joined list are those between its parts and those in them. -/
theorem count_intercalate {ls : List (List α)} (h : ls ≠ []) :
    ([c].intercalate ls).count c + 1 = (ls.map (·.count c)).sum + ls.length := by
  induction ls with
  | nil => exact absurd rfl h
  | cons l ls ih =>
    cases ls with
    | nil => simp
    | cons l' ls =>
      have hrest := ih (List.cons_ne_nil _ _)
      rw [List.intercalate_cons_cons, List.count_append, List.count_append, List.count_singleton_self, List.map_cons,
        List.sum_cons, List.length_cons]
      omega

/-- Induction over a list, cut after cut. -/
theorem cut_induction {P : List α → Prop} (last : ∀ s, c ∉ s → P s)
    (cut : ∀ a b, c ∉ a → P b → P (a ++ c :: b)) (s : List α) : P s := by
  induction hn : s.length using Nat.strongRecOn generalizing s with
  | ind n ih =>
    cases hc : cutAt c s with
    | none => exact last s (cutAt_eq_none.mp hc)
    | some p =>
      have hlen := length_cutAt hc
      obtain ⟨hs, ha⟩ := cutAt_eq_some.mp hc
      rw [hs]
      exact cut p.1 p.2 ha (ih p.2.length (by omega) p.2 rfl)

/-- Cutting at places in a list gives one piece more than there are places. -/
theorem length_splitOnP {β : Type*} (p : β → Bool) (l : List β) : (l.splitOnP p).length = l.countP p + 1 := by
  induction l with
  | nil => rfl
  | cons b l ih =>
    rw [List.splitOnP_cons_eq_if_modifyHead, List.countP_cons]
    cases p b with
    | false => simp [ih]
    | true => simp [ih]

theorem length_splitOn (s : List α) : (s.splitOn c).length = s.count c + 1 := by
  rw [List.splitOn_eq_splitOnP, length_splitOnP]
  rfl

theorem length_le_of_mem_splitOn {p : List α} (h : p ∈ s.splitOn c) : p.length ≤ s.length := by
  induction s using cut_induction (c := c) with
  | last s hs =>
    rw [List.splitOn_eq_singleton hs] at h
    exact Nat.le_of_eq (congrArg List.length (List.mem_singleton.mp h))
  | cut a b ha ih =>
    rw [List.splitOn_append_cons_self_of_not_mem ha] at h
    rw [List.length_append, List.length_cons]
    rcases List.mem_cons.mp h with rfl | h
    · omega
    · have hb := ih h
      omega

theorem not_mem_of_mem_splitOn {p : List α} (h : p ∈ s.splitOn c) : c ∉ p := by
  induction s using cut_induction (c := c) with
  | last s hs =>
    rw [List.splitOn_eq_singleton hs] at h
    rw [List.mem_singleton.mp h]
    exact hs
  | cut a b ha ih =>
    rw [List.splitOn_append_cons_self_of_not_mem ha] at h
    rcases List.mem_cons.mp h with rfl | h
    · exact ha
    · exact ih h

/-- Parts that hold separators are cut into more. -/
theorem not_mem_of_length_splitOn {ls : List (List α)} (hne : ls ≠ [])
    (h : (([c].intercalate ls).splitOn c).length = ls.length) : ∀ l ∈ ls, c ∉ l := by
  have hcount := count_intercalate (c := c) hne
  rw [length_splitOn] at h
  have hsum : (ls.map (·.count c)).sum = 0 := by omega
  intro l hl hm
  have hpos : 0 < l.count c := List.count_pos_iff.mpr hm
  have hzero := List.sum_eq_zero_iff_forall_eq_nat.mp hsum _ (List.mem_map_of_mem hl)
  omega

theorem tokens_of_not_mem_eq (h : c ∉ s) : tokens c s = if s = [] then [] else [s] := by
  split
  · rename_i hs
    rw [hs, tokens_nil]
  · rename_i hs
    exact tokens_of_not_mem h hs

theorem not_mem_of_mem_tokens {t : List α} (h : t ∈ tokens c s) : c ∉ t :=
  not_mem_of_mem_splitOn (List.mem_of_mem_filter h)

/-- The tokens, each with a separator, have room in the list and one separator more. -/
theorem sum_length_tokens_le (s : List α) : ((tokens c s).map (·.length + 1)).sum ≤ s.length + 1 := by
  induction s using cut_induction (c := c) with
  | last s hs =>
    rw [tokens_of_not_mem_eq hs]
    split
    · simp
    · simp
  | cut a b ha ih =>
    have hone : ((tokens c a).map (·.length + 1)).sum ≤ a.length + 1 := by
      rw [tokens_of_not_mem_eq ha]
      split
      · simp
      · simp
    rw [tokens_append_cons, List.map_append, List.sum_append, List.length_append, List.length_cons]
    omega

/-- Joined again, the pieces are no longer than the list. -/
theorem length_pieces_le (s : List α) : ([c].intercalate (pieces c s)).length ≤ s.length := by
  induction s using cut_induction (c := c) with
  | last s hs =>
    by_cases hne : s = []
    · simp [hne, pieces_nil]
    · have hone : [c].intercalate (pieces c s) = s := by
        rw [pieces_of_not_mem hs hne, List.intercalate_singleton]
      exact Nat.le_of_eq (congrArg List.length hone)
  | cut a b ha ih =>
    rw [pieces_append_cons ha, List.length_append, List.length_cons]
    cases hb : pieces c b with
    | nil =>
      rw [List.intercalate_singleton]
      omega
    | cons p ps =>
      rw [hb] at ih
      rw [List.intercalate_cons_cons, List.length_append, List.length_append, List.length_singleton]
      omega

theorem cells_nil (sep quote : α) (inQuotes : Bool) : cells sep quote inQuotes [] = [[]] := by unfold cells; rfl

theorem cells_ne_nil (sep quote : α) (inQuotes : Bool) (s : List α) : cells sep quote inQuotes s ≠ [] := by
  induction s generalizing inQuotes with
  | nil =>
    rw [cells_nil]
    exact List.cons_ne_nil _ _
  | cons b s ih =>
    unfold cells
    split
    · exact ih _
    · split
      · exact List.cons_ne_nil _ _
      · intro h
        exact ih inQuotes (List.modifyHead_eq_nil_iff.mp h)

/-- What stands before the first separator and is no quote belongs to the first cell. -/
theorem cells_append {sep quote : α} (hsep : sep ∉ s) (hquote : quote ∉ s) (rest : List α) :
    cells sep quote false (s ++ rest) = (cells sep quote false rest).modifyHead (s ++ ·) := by
  induction s with
  | nil => exact (congrFun List.modifyHead_id _).symm
  | cons a s ih =>
    rw [List.mem_cons, not_or] at hsep hquote
    rw [List.cons_append, cells, if_neg (Ne.symm hquote.1), if_neg (fun h => hsep.1 h.1.symm), ih hsep.2 hquote.2,
      List.modifyHead_modifyHead]
    rfl

/-- In quotes a separator is part of the cell, and a doubled quote is dropped. -/
theorem cells_doubled {sep quote : α} (s rest : List α) :
    cells sep quote true (s.flatMap (fun a => if a = quote then [quote, quote] else [a]) ++ rest) =
      (cells sep quote true rest).modifyHead (s.filter (· ≠ quote) ++ ·) := by
  induction s with
  | nil => exact (congrFun List.modifyHead_id _).symm
  | cons a s ih =>
    rw [List.flatMap_cons]
    by_cases ha : a = quote
    · rw [if_pos ha, List.filter_cons_of_neg (by simp [ha]), List.cons_append, List.cons_append, cells, if_pos rfl,
        Bool.not_true, List.cons_append, List.cons_append, cells, if_pos rfl, Bool.not_false, List.nil_append, ih]
    · rw [if_neg ha, List.filter_cons_of_pos (by simp [ha]), List.cons_append, List.nil_append, List.cons_append,
        cells, if_neg ha, if_neg (fun h => Bool.noConfusion h.2), ih, List.modifyHead_modifyHead]
      rfl

theorem cells_quoted {sep quote : α} (s rest : List α) :
    cells sep quote false (quoted quote s ++ rest) =
      (cells sep quote false rest).modifyHead (s.filter (· ≠ quote) ++ ·) := by
  rw [quoted, List.append_assoc, List.cons_append, cells, if_pos rfl, Bool.not_false, cells_doubled,
    List.singleton_append, cells, if_pos rfl, Bool.not_true]

/-- Joined fields are cut apart again, each as `decode` has it, when an encoded field
before other text gives just that. -/
theorem cells_intercalate {sep quote : α} (hne : sep ≠ quote) {encode decode : List α → List α}
    (hfield : ∀ s rest, cells sep quote false (encode s ++ rest) =
      (cells sep quote false rest).modifyHead (decode s ++ ·)) {fields : List (List α)} (hfields : fields ≠ []) :
    cells sep quote false ([sep].intercalate (fields.map encode)) = fields.map decode := by
  induction fields with
  | nil => exact absurd rfl hfields
  | cons s fields ih =>
    cases fields with
    | nil =>
      have hlast := hfield s []
      rw [List.append_nil, cells_nil, List.modifyHead_cons, List.append_nil] at hlast
      rw [List.map_singleton, List.intercalate_singleton, hlast, List.map_singleton]
    | cons t fields =>
      rw [List.map_cons, List.map_cons, List.intercalate_cons_cons, List.append_assoc, hfield, List.singleton_append,
        cells, if_neg hne, if_pos ⟨rfl, rfl⟩, ← List.map_cons, ih (List.cons_ne_nil _ _), List.modifyHead_cons,
        List.append_nil]
      rfl

theorem map_modifyHead {β γ : Type*} {f : β → γ} {g : β → β} {h : γ → γ} (hfg : ∀ x, f (g x) = h (f x)) (l : List β) :
    (l.modifyHead g).map f = (l.map f).modifyHead h := by
  cases l with
  | nil => rfl
  | cons x l => rw [List.modifyHead_cons, List.map_cons, List.map_cons, List.modifyHead_cons, hfg]

/-- The cells of what follows `before`, which decides whether they begin in quotes. -/
theorem cells_eq_splitOnP {sep quote : α} (hne : sep ≠ quote) (before s : List α) :
    cells sep quote (before.count quote % 2 == 1) s =
      ((s.zipIdx before.length).splitOnP (isOpenSep sep quote (before ++ s))).map fun piece =>
        (piece.map Prod.fst).filter (· ≠ quote) := by
  induction s generalizing before with
  | nil => rfl
  | cons b s ih =>
    have hnext := ih (before ++ [b])
    rw [List.length_append, List.length_singleton, List.append_assoc, List.singleton_append, List.count_append,
      List.count_singleton] at hnext
    have hopen : isOpenSep sep quote (before ++ b :: s) (b, before.length) =
        (decide (b = sep) && before.count quote % 2 == 0) := by
      unfold isOpenSep
      rw [List.take_left]
    have hparity := Nat.mod_two_eq_zero_or_one (before.count quote)
    rw [List.zipIdx_cons, List.splitOnP_cons_eq_if_modifyHead, hopen]
    unfold cells
    by_cases hquote : b = quote
    · -- a quote is dropped, and what follows it is in the other state
      have hflip : (!(before.count quote % 2 == 1)) = ((before.count quote + 1) % 2 == 1) := by
        rcases hparity with h | h
        · simp [h, Nat.add_mod]
        · simp [h, Nat.add_mod]
      rw [if_pos (beq_iff_eq.mpr hquote)] at hnext
      rw [if_pos hquote, decide_eq_false (fun h => hne (h.symm.trans hquote)), Bool.false_and,
        if_neg Bool.false_ne_true, hflip, hnext, map_modifyHead (h := id) (fun piece => by simp [hquote]),
        List.modifyHead_id]
      rfl
    · rw [if_neg (by simpa using hquote), Nat.add_zero] at hnext
      rw [if_neg hquote]
      by_cases hsep : b = sep ∧ (before.count quote % 2 == 1) = false
      · have heven : (before.count quote % 2 == 0) = true := by simpa using hsep.2
        rw [if_pos hsep, decide_eq_true hsep.1, heven, if_pos (Bool.and_self _), hnext]
        rfl
      · have hclosed : (decide (b = sep) && before.count quote % 2 == 0) = false := by
          rw [not_and] at hsep
          rcases hparity with h | h
          · simpa [h] using hsep
          · simp [h]
        rw [if_neg hsep, hclosed, if_neg Bool.false_ne_true, hnext,
          map_modifyHead (h := (b :: ·)) (fun piece => by simp [hquote])]

/-- The cells of a list are its segments without the quotes. -/
theorem cells_eq_segments {sep quote : α} (hne : sep ≠ quote) (s : List α) :
    cells sep quote false s = (segments sep quote s).map (·.filter (· ≠ quote)) := by
  unfold segments
  rw [List.map_map]
  exact cells_eq_splitOnP hne [] s

theorem length_segments (sep quote : α) (s : List α) :
    (segments sep quote s).length = s.zipIdx.countP (isOpenSep sep quote s) + 1 := by
  unfold segments
  rw [List.length_map, length_splitOnP]

theorem length_tokens_le (s : List α) : (tokens c s).length ≤ s.length := by
  induction s using cut_induction (c := c) with
  | last s hs =>
    rw [tokens_of_not_mem_eq hs]
    split
    · exact Nat.zero_le _
    · rename_i hne
      exact List.length_pos_of_ne_nil hne
  | cut a b ha ih =>
    have hone : (tokens c a).length ≤ 1 := by
      rw [tokens_of_not_mem_eq ha]
      split <;> simp
    rw [tokens_append_cons, List.length_append, List.length_append, List.length_cons]
    omega

end Framework
