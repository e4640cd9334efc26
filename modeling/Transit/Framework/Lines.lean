import Mathlib.Data.List.Basic
import Mathlib.Tactic.Common

/-!
# Reading a stream in lines through a buffer

A reader with room for `limit` elements takes elements from the front of a
stream until it has taken one that ends a line (`isEnd`) or its buffer is full
(`readLine`); repeated until the stream is used up, this cuts the whole stream
(`readLines`). `IsLine` are the lines such a reader takes whole. `cutLines` are
the lines there are, whatever the reader's buffer, and `allLines` counts what
follows the last of them as one more; the reader cuts each of these for itself
(`readLines_flatten_ended`).
-/

namespace Framework

variable {α : Type*} (isEnd : α → Bool)

/-- One line read from the front of a stream, and the rest of the stream. -/
def readLine : Nat → List α → List α × List α
  | 0, s => ([], s)
  | _ + 1, [] => ([], [])
  | n + 1, a :: s =>
    if isEnd a then ([a], s)
    else
      let (l, r) := readLine n s
      (a :: l, r)

/-- The lines read one after the other, at most `fuel` of them. -/
def readLinesAux (limit : Nat) : Nat → List α → List (List α)
  | 0, _ => []
  | _ + 1, [] => []
  | fuel + 1, s => (readLine isEnd limit s).1 :: readLinesAux limit fuel (readLine isEnd limit s).2

/-- The lines of a whole stream: every line takes at least one element, so the
length of the stream is fuel enough. -/
def readLines (limit : Nat) (s : List α) : List (List α) := readLinesAux isEnd limit s.length s

/-- A list whose last element, and no other, ends a line. -/
def Ended (l : List α) : Prop := ∃ body e, l = body ++ [e] ∧ isEnd e = true ∧ ∀ a ∈ body, isEnd a = false

/-- A line that a reader with room for `limit` elements takes whole. -/
structure IsLine (limit : Nat) (l : List α) : Prop where
  ended : Ended isEnd l
  fits : l.length ≤ limit

/-- The lines of a stream, and what follows the last of them. -/
def cutLines : List α → List (List α) × List α
  | [] => ([], [])
  | a :: s =>
    let (lines, tail) := cutLines s
    if isEnd a then ([a] :: lines, tail)
    else
      match lines with
      | [] => ([], a :: tail)
      | line :: lines => ((a :: line) :: lines, tail)

/-- The lines of a stream and, if anything does, what follows the last of them. -/
def allLines (s : List α) : List (List α) :=
  (cutLines isEnd s).1 ++ if (cutLines isEnd s).2 = [] then [] else [(cutLines isEnd s).2]

variable {isEnd}

theorem readLine_append (n : Nat) (s : List α) :
    (readLine isEnd n s).1 ++ (readLine isEnd n s).2 = s := by
  induction n generalizing s with
  | zero => rfl
  | succ n ih =>
    cases s with
    | nil => rfl
    | cons a s =>
      simp only [readLine]
      split
      · rfl
      · simp only [List.cons_append, ih s]

theorem length_readLine_le (n : Nat) (s : List α) : (readLine isEnd n s).1.length ≤ n := by
  induction n generalizing s with
  | zero => simp [readLine]
  | succ n ih =>
    cases s with
    | nil => simp [readLine]
    | cons a s =>
      simp only [readLine]
      split
      · simp
      · simp only [List.length_cons]; have := ih s; omega

theorem length_readLine_snd_lt {n : Nat} (hn : 0 < n) {s : List α} (hs : s ≠ []) :
    (readLine isEnd n s).2.length < s.length := by
  obtain ⟨a, s, rfl⟩ := List.exists_cons_of_ne_nil hs
  obtain ⟨n, rfl⟩ : ∃ k, n = k + 1 := ⟨n - 1, by omega⟩
  simp only [readLine]
  split
  · simp
  · have h := congrArg List.length (@readLine_append _ isEnd n s)
    simp only [List.length_append] at h
    simp only [List.length_cons]
    omega

theorem readLinesAux_eq {limit : Nat} (hl : 0 < limit) {n : Nat} {s : List α} (h : s.length ≤ n) :
    readLinesAux isEnd limit n s = readLines isEnd limit s := by
  induction n using Nat.strongRecOn generalizing s with
  | ind n ih =>
    cases s with
    | nil => cases n <;> rfl
    | cons a s =>
      obtain ⟨n, rfl⟩ : ∃ k, n = k + 1 := ⟨n - 1, by simp only [List.length_cons] at h; omega⟩
      have hlt := @length_readLine_snd_lt _ isEnd limit hl _ (List.cons_ne_nil a s)
      simp only [List.length_cons] at h hlt
      simp only [readLines, List.length_cons, readLinesAux, List.cons.injEq, true_and]
      rw [ih n (by omega) (by omega)]
      by_cases hn : s.length = n
      · rw [hn, ih n (by omega) (by omega)]
      · rw [ih s.length (by omega) (by omega)]

@[simp] theorem readLines_nil (limit : Nat) : readLines isEnd limit [] = [] := rfl

theorem readLines_of_ne_nil {limit : Nat} (hl : 0 < limit) {s : List α} (hs : s ≠ []) :
    readLines isEnd limit s =
      (readLine isEnd limit s).1 :: readLines isEnd limit (readLine isEnd limit s).2 := by
  obtain ⟨a, s, rfl⟩ := List.exists_cons_of_ne_nil hs
  have hlt := @length_readLine_snd_lt _ isEnd limit hl _ (List.cons_ne_nil a s)
  simp only [List.length_cons] at hlt
  rw [readLines, List.length_cons, readLinesAux, readLinesAux_eq hl (by omega)]
  exact hs

/-- What holds of every line read from any stream holds of the lines of `s`. -/
theorem forall_readLines {limit : Nat} (hl : 0 < limit) {P : List α → Prop}
    (h : ∀ s, s ≠ [] → P (readLine isEnd limit s).1) (s : List α) :
    ∀ l ∈ readLines isEnd limit s, P l := by
  induction hn : s.length using Nat.strongRecOn generalizing s with
  | ind n ih =>
    by_cases hs : s = []
    · subst hs; simp
    · rw [readLines_of_ne_nil hl hs]
      intro l hmem
      rcases List.mem_cons.mp hmem with rfl | hmem
      · exact h s hs
      · exact ih _ (hn ▸ length_readLine_snd_lt hl hs) _ rfl l hmem

theorem readLines_flatten {limit : Nat} (hl : 0 < limit) (s : List α) : (readLines isEnd limit s).flatten = s := by
  induction hn : s.length using Nat.strongRecOn generalizing s with
  | ind n ih =>
    by_cases hs : s = []
    · subst hs
      rfl
    · rw [readLines_of_ne_nil hl hs, List.flatten_cons, ih _ (hn ▸ length_readLine_snd_lt hl hs) _ rfl, readLine_append]

/-- In a line read, only the last element can end a line. -/
theorem readLine_interior (n : Nat) (s : List α) :
    ∀ a ∈ (readLine isEnd n s).1.dropLast, isEnd a = false := by
  induction n generalizing s with
  | zero => simp [readLine]
  | succ n ih =>
    cases s with
    | nil => simp [readLine]
    | cons a s =>
      simp only [readLine]
      split
      · simp
      · rename_i ha
        intro b hb
        simp only at hb
        cases hr : (readLine isEnd n s).1 with
        | nil => rw [hr] at hb; simp at hb
        | cons c l =>
          rw [hr, List.dropLast_cons_of_ne_nil (List.cons_ne_nil c l)] at hb
          rcases List.mem_cons.mp hb with rfl | hb
          · simpa using ha
          · exact ih s b (by rw [hr]; exact hb)

theorem readLine_line {limit : Nat} {l : List α} (h : IsLine isEnd limit l) (s : List α) :
    readLine isEnd limit (l ++ s) = (l, s) := by
  obtain ⟨⟨body, e, rfl, he, hb⟩, hf⟩ := h
  induction body generalizing limit with
  | nil =>
    simp only [List.nil_append, List.length_singleton] at hf
    obtain ⟨n, rfl⟩ : ∃ k, limit = k + 1 := ⟨limit - 1, by omega⟩
    simp [readLine, he]
  | cons a body ih =>
    simp only [List.cons_append, List.length_cons] at hf
    obtain ⟨n, rfl⟩ : ∃ k, limit = k + 1 := ⟨limit - 1, by omega⟩
    simp only [List.cons_append, readLine, hb a (List.mem_cons_self ..), Bool.false_eq_true, ↓reduceIte]
    rw [ih (Nat.le_of_succ_le_succ hf) fun b hb' => hb b (List.mem_cons_of_mem _ hb')]

/-- A full buffer, without the end of a line. -/
theorem readLine_full {l : List α} (h : ∀ a ∈ l, isEnd a = false) (s : List α) :
    readLine isEnd l.length (l ++ s) = (l, s) := by
  induction l with
  | nil => rfl
  | cons a l ih =>
    rw [List.forall_mem_cons] at h
    rw [List.length_cons, List.cons_append, readLine, if_neg (by simp [h.1]), ih h.2]

theorem IsLine.ne_nil {limit : Nat} {l : List α} (h : IsLine isEnd limit l) : l ≠ [] := by
  obtain ⟨⟨body, e, rfl, -, -⟩, -⟩ := h; simp

theorem IsLine.mono {m n : Nat} (hmn : m ≤ n) {l : List α} (h : IsLine isEnd m l) :
    IsLine isEnd n l := ⟨h.ended, Nat.le_trans h.fits hmn⟩

theorem IsLine.limit_pos {limit : Nat} {l : List α} (h : IsLine isEnd limit l) : 0 < limit :=
  Nat.lt_of_lt_of_le (List.length_pos_iff.mpr h.ne_nil) h.fits

theorem readLines_line {limit : Nat} {l : List α} (h : IsLine isEnd limit l) (s : List α) :
    readLines isEnd limit (l ++ s) = l :: readLines isEnd limit s := by
  rw [readLines_of_ne_nil h.limit_pos (by simp [h.ne_nil]), readLine_line h]

/-- A stream written as lines is read as those lines. -/
theorem readLines_lines {limit : Nat} {ls : List (List α)} (h : ∀ l ∈ ls, IsLine isEnd limit l)
    (s : List α) : readLines isEnd limit (ls.flatten ++ s) = ls ++ readLines isEnd limit s := by
  induction ls with
  | nil => rfl
  | cons l ls ih =>
    rw [List.flatten_cons, List.append_assoc, readLines_line (h l (List.mem_cons_self ..)),
      ih fun l hl => h l (List.mem_cons_of_mem _ hl), List.cons_append]

/-- A reader does not look past the end of a line: what stands behind it is
left, behind what is left of a stream that ends there. -/
theorem readLine_append_ended {e : α} (he : isEnd e = true) (n : Nat) (a b : List α) :
    readLine isEnd n (a ++ [e] ++ b) = ((readLine isEnd n (a ++ [e])).1, (readLine isEnd n (a ++ [e])).2 ++ b) ∧
      ((readLine isEnd n (a ++ [e])).2 = [] ∨ ∃ a', (readLine isEnd n (a ++ [e])).2 = a' ++ [e]) := by
  induction n generalizing a with
  | zero => exact ⟨rfl, .inr ⟨a, rfl⟩⟩
  | succ n ih =>
    cases a with
    | nil =>
      rw [List.nil_append, List.singleton_append]
      unfold readLine
      rw [if_pos he, if_pos he]
      exact ⟨rfl, .inl rfl⟩
    | cons x a =>
      simp only [List.cons_append]
      unfold readLine
      by_cases hx : isEnd x = true
      · rw [if_pos hx, if_pos hx]
        exact ⟨rfl, .inr ⟨a, rfl⟩⟩
      · rw [if_neg hx, if_neg hx]
        obtain ⟨hread, hrest⟩ := ih a
        rw [hread]
        exact ⟨rfl, hrest⟩

/-- A stream is read up to the end of a line, and from there on. -/
theorem readLines_append_ended {limit : Nat} (hl : 0 < limit) {e : α} (he : isEnd e = true) (a b : List α) :
    readLines isEnd limit (a ++ [e] ++ b) = readLines isEnd limit (a ++ [e]) ++ readLines isEnd limit b := by
  induction hn : a.length using Nat.strongRecOn generalizing a with
  | ind n ih =>
    have hne : a ++ [e] ≠ [] := List.concat_ne_nil _ _
    have hlt := @length_readLine_snd_lt _ isEnd limit hl _ hne
    obtain ⟨hread, hrest⟩ := readLine_append_ended he limit a b
    rw [readLines_of_ne_nil hl (List.append_ne_nil_of_left_ne_nil hne b), readLines_of_ne_nil hl hne, hread]
    rcases hrest with hrest | ⟨a', hrest⟩
    · rw [hrest, readLines_nil, List.nil_append]
      rfl
    · rw [hrest, List.length_append, List.length_append] at hlt
      dsimp only
      rw [hrest, ih a'.length (by omega) a' rfl]
      rfl

/-- Each line is cut for itself. -/
theorem readLines_flatten_ended {limit : Nat} (hl : 0 < limit) {lines : List (List α)}
    (h : ∀ l ∈ lines, Ended isEnd l) (s : List α) :
    readLines isEnd limit (lines.flatten ++ s) = lines.flatMap (readLines isEnd limit) ++ readLines isEnd limit s := by
  induction lines with
  | nil => rfl
  | cons line lines ih =>
    rw [List.forall_mem_cons] at h
    obtain ⟨⟨body, e, rfl, he, -⟩, hlines⟩ := h
    rw [List.flatten_cons, List.append_assoc, readLines_append_ended hl he, ih hlines, List.flatMap_cons,
      List.append_assoc]

theorem readLine_unended {l : List α} (h : ∀ a ∈ l, isEnd a = false) {n : Nat} (hn : l.length ≤ n) :
    readLine isEnd n l = (l, []) := by
  induction l generalizing n with
  | nil => cases n <;> rfl
  | cons a l ih =>
    rw [List.forall_mem_cons] at h
    obtain ⟨n, rfl⟩ : ∃ k, n = k + 1 := ⟨n - 1, by simp only [List.length_cons] at hn; omega⟩
    rw [readLine, if_neg (by simp [h.1]), ih h.2 (Nat.le_of_succ_le_succ hn)]

/-- The last line of a stream needs no end. -/
theorem readLines_unended {limit : Nat} {l : List α} (h : ∀ a ∈ l, isEnd a = false) (hne : l ≠ [])
    (hl : l.length ≤ limit) : readLines isEnd limit l = [l] := by
  have hpos := List.length_pos_iff.mpr hne
  rw [readLines_of_ne_nil (by omega) hne, readLine_unended h hl, readLines_nil]

/-- A line that fills the buffer leaves its end for the next call. -/
theorem readLines_full {body : List α} {e : α} (h : ∀ a ∈ body, isEnd a = false) (he : isEnd e = true)
    (hne : body ≠ []) : readLines isEnd body.length (body ++ [e]) = [body, [e]] := by
  have hpos := List.length_pos_iff.mpr hne
  have hend : IsLine isEnd body.length [e] := ⟨⟨[], e, rfl, he, fun a ha => by cases ha⟩, hpos⟩
  have hlast := readLines_line hend []
  rw [List.append_nil, readLines_nil] at hlast
  rw [readLines_of_ne_nil hpos (List.append_ne_nil_of_left_ne_nil hne _), readLine_full h, hlast]

/-- What is read of a text and its end is what is read of the text, with the end
behind the last piece or as a piece of its own. -/
theorem readLines_concat_cases {limit : Nat} (hl : 0 < limit) {l : List α} {e : α} (h : ∀ a ∈ l, isEnd a = false)
    (he : isEnd e = true) : readLines isEnd limit (l ++ [e]) = readLines isEnd limit l ++ [[e]] ∨
      ∃ init last, readLines isEnd limit l = init ++ [last] ∧
        readLines isEnd limit (l ++ [e]) = init ++ [last ++ [e]] := by
  induction hn : l.length using Nat.strongRecOn generalizing l with
  | ind n ih =>
    by_cases hfits : l.length < limit
    · have hend : IsLine isEnd limit (l ++ [e]) :=
        ⟨⟨l, e, rfl, he, h⟩, by rw [List.length_append, List.length_singleton]; omega⟩
      have hread := readLines_line hend []
      rw [List.append_nil, readLines_nil] at hread
      by_cases hnil : l = []
      · subst hnil
        exact .inl hread
      · exact .inr ⟨[], l, readLines_unended h hnil (Nat.le_of_lt hfits), hread⟩
    · have hlen : (l.take limit).length = limit := List.length_take_of_le (Nat.le_of_not_lt hfits)
      have hread : ∀ s, readLines isEnd limit (l ++ s) = l.take limit :: readLines isEnd limit (l.drop limit ++ s) := by
        intro s
        have htake : ∀ a ∈ l.take limit, isEnd a = false := fun a ha => h a (List.mem_of_mem_take ha)
        have hfull := readLine_full htake (l.drop limit ++ s)
        rw [hlen, ← List.append_assoc, List.take_append_drop] at hfull
        have hne : l ++ s ≠ [] := List.append_ne_nil_of_left_ne_nil (List.length_pos_iff.mp (by omega)) s
        rw [readLines_of_ne_nil hl hne, hfull]
      have hwhole := hread []
      rw [List.append_nil, List.append_nil] at hwhole
      have hshort : (l.drop limit).length < n := by
        rw [List.length_drop]
        omega
      rw [hread, hwhole]
      rcases ih _ hshort (fun a ha => h a (List.mem_of_mem_drop ha)) rfl with hrest | ⟨init, last, hrest, hconcat⟩
      · exact .inl (by rw [hrest]; rfl)
      · exact .inr ⟨l.take limit :: init, last, by rw [hrest]; rfl, by rw [hconcat]; rfl⟩

/-! ## The lines of a stream -/

theorem Ended.ne_nil {l : List α} (h : Ended isEnd l) : l ≠ [] := by
  obtain ⟨body, e, rfl, -, -⟩ := h; simp

theorem cutLines_flatten (s : List α) : (cutLines isEnd s).1.flatten ++ (cutLines isEnd s).2 = s := by
  induction s with
  | nil => rfl
  | cons a s ih =>
    unfold cutLines
    revert ih
    rcases cutLines isEnd s with ⟨_ | ⟨line, lines⟩, tail⟩ <;> intro ih <;> simp only at ih ⊢ <;> split
    all_goals rw [← ih]; simp

theorem ended_cutLines (s : List α) : ∀ l ∈ (cutLines isEnd s).1, Ended isEnd l := by
  induction s with
  | nil => intro l hl; cases hl
  | cons a s ih =>
    unfold cutLines
    revert ih
    rcases cutLines isEnd s with ⟨_ | ⟨line, lines⟩, tail⟩ <;> intro ih <;> simp only at ih ⊢ <;>
      split <;> rename_i ha <;> intro l hl
    · rw [List.mem_singleton.mp hl]
      exact ⟨[], a, rfl, ha, by simp⟩
    · cases hl
    · rcases List.mem_cons.mp hl with rfl | hl
      · exact ⟨[], a, rfl, ha, by simp⟩
      · exact ih l hl
    · rcases List.mem_cons.mp hl with rfl | hl
      · obtain ⟨body, e, rfl, he, hb⟩ := ih line (List.mem_cons_self ..)
        refine ⟨a :: body, e, rfl, he, fun b hb' => ?_⟩
        rcases List.mem_cons.mp hb' with rfl | hb'
        · simpa using ha
        · exact hb b hb'
      · exact ih l (List.mem_cons_of_mem _ hl)

/-- No line ends after the last line. -/
theorem cutLines_tail (s : List α) : ∀ a ∈ (cutLines isEnd s).2, isEnd a = false := by
  induction s with
  | nil => intro a ha; cases ha
  | cons b s ih =>
    unfold cutLines
    revert ih
    rcases cutLines isEnd s with ⟨_ | ⟨line, lines⟩, tail⟩ <;> intro ih <;> simp only at ih ⊢ <;>
      split <;> rename_i hb <;> intro a ha
    · exact ih a ha
    · rcases List.mem_cons.mp ha with rfl | ha
      · simpa using hb
      · exact ih a ha
    · exact ih a ha
    · exact ih a ha

theorem allLines_flatten (s : List α) : (allLines isEnd s).flatten = s := by
  have hcut := @cutLines_flatten _ isEnd s
  unfold allLines
  rw [List.flatten_append]
  split
  · rename_i htail
    rw [htail] at hcut
    exact hcut
  · rw [List.flatten_singleton]
    exact hcut

/-- Only the last line can miss its end. -/
theorem allLines_take {before : List (List α)} {line s : List α} (h : before ++ [line] <+: allLines isEnd s) :
    (∀ l ∈ before, Ended isEnd l) ∧ (Ended isEnd line ∨ line ≠ [] ∧ ∀ a ∈ line, isEnd a = false) := by
  have hended := @ended_cutLines _ isEnd s
  obtain ⟨rest, hrest⟩ := h
  unfold allLines at hrest
  split at hrest
  · rw [List.append_nil] at hrest
    rw [← hrest] at hended
    exact ⟨fun l hl => hended l (by simp [hl]), .inl (hended line (by simp))⟩
  · rename_i htail
    rcases List.eq_nil_or_concat rest with rfl | ⟨rest, last, rfl⟩
    · rw [List.append_nil] at hrest
      obtain ⟨rfl, rfl⟩ := List.append_inj' hrest rfl |>.imp_right List.singleton_inj.mp
      exact ⟨hended, .inr ⟨htail, cutLines_tail s⟩⟩
    · rw [List.concat_eq_append, ← List.append_assoc] at hrest
      have hlines := (List.append_inj' hrest rfl).1
      rw [← hlines] at hended
      exact ⟨fun l hl => hended l (by simp [hl]), .inl (hended line (by simp))⟩

theorem cutLines_append {l : List α} (h : Ended isEnd l) (s : List α) :
    cutLines isEnd (l ++ s) = (l :: (cutLines isEnd s).1, (cutLines isEnd s).2) := by
  obtain ⟨body, e, rfl, he, hb⟩ := h
  induction body with
  | nil => simp [cutLines, he]
  | cons a body ih =>
    have ha := hb a (List.mem_cons_self ..)
    rw [List.cons_append, List.cons_append, cutLines, ih fun b hb' => hb b (List.mem_cons_of_mem _ hb')]
    simp [ha]

end Framework
