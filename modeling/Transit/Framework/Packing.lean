import Mathlib.Algebra.BigOperators.Group.List.Basic
import Mathlib.Data.List.Basic
import Mathlib.Tactic.Common

/-!
# Packing pieces into a buffer of bounded size

`put` appends a piece to a buffer when it fits as a whole and leaves it out
when it does not. What a run of `put` leaves has the length that `pack`
computes from the lengths alone (`length_foldl_put`); as long as everything
fits, it is the concatenation (`foldl_put_of_le`), and otherwise a part of it
(`foldl_put_split`).

A `Piece` is put as a whole or not at all, or is cut to the room there is. What
a run of them leaves behind a text is what it leaves in an empty buffer with
the rest of the room (`foldl_put_append`).
-/

namespace Framework

variable {α : Type*}

/-- Appending a piece to a buffer with room for `cap` elements, if it fits. -/
def put (cap : Nat) (buf src : List α) : List α :=
  if buf.length + src.length ≤ cap then buf ++ src else buf

/-- The room used when pieces of these sizes are put one after the other. -/
def pack (cap : Nat) : Nat → List Nat → Nat
  | used, [] => used
  | used, n :: sizes => pack cap (if used + n ≤ cap then used + n else used) sizes

variable {cap used : Nat} {buf src : List α}

theorem put_of_le (h : buf.length + src.length ≤ cap) : put cap buf src = buf ++ src := if_pos h

theorem length_put : (put cap buf src).length =
    if buf.length + src.length ≤ cap then buf.length + src.length else buf.length := by
  simp only [put]
  split <;> simp

theorem mem_put {a : α} (h : a ∈ put cap buf src) : a ∈ buf ∨ a ∈ src := by
  simp only [put] at h
  split at h
  · exact List.mem_append.mp h
  · exact .inl h

theorem length_foldl_put (srcs : List (List α)) (buf : List α) :
    (srcs.foldl (put cap) buf).length = pack cap buf.length (srcs.map List.length) := by
  induction srcs generalizing buf with
  | nil => rfl
  | cons src srcs ih => rw [List.foldl_cons, ih, length_put]; rfl

theorem mem_foldl_put {a : α} (srcs : List (List α)) (h : a ∈ srcs.foldl (put cap) buf) :
    a ∈ buf ∨ ∃ src ∈ srcs, a ∈ src := by
  induction srcs generalizing buf with
  | nil => exact .inl h
  | cons src srcs ih =>
    rcases ih h with h | ⟨src', hs, h⟩
    · exact (mem_put h).imp id fun h => ⟨src, List.mem_cons_self .., h⟩
    · exact .inr ⟨src', List.mem_cons_of_mem _ hs, h⟩

theorem foldl_put_of_le {srcs : List (List α)} (h : buf.length + srcs.flatten.length ≤ cap) :
    srcs.foldl (put cap) buf = buf ++ srcs.flatten := by
  induction srcs generalizing buf with
  | nil => simp
  | cons src srcs ih =>
    simp only [List.flatten_cons, List.length_append] at h
    rw [List.foldl_cons, put_of_le (by omega), ih (by simp only [List.length_append]; omega),
      List.flatten_cons, List.append_assoc]

/-- What a run of `put` appends are the pieces without some of them; a piece is
left out only where it does not fit. -/
theorem foldl_put_split (srcs : List (List α)) (buf : List α) : ∃ tail,
    srcs.foldl (put cap) buf = buf ++ tail ∧ tail.Sublist srcs.flatten ∧
      (tail = srcs.flatten ∨ ∃ src ∈ srcs, cap < (buf ++ tail).length + src.length) := by
  induction srcs generalizing buf with
  | nil => exact ⟨[], by simp, List.Sublist.refl _, .inl rfl⟩
  | cons src srcs ih =>
    obtain ⟨tail, htail, hsub, hfull⟩ := ih (put cap buf src)
    rw [List.foldl_cons, htail, List.flatten_cons]
    by_cases hfit : buf.length + src.length ≤ cap
    · rw [put_of_le hfit, List.append_assoc] at hfull ⊢
      refine ⟨src ++ tail, rfl, (List.Sublist.refl src).append hsub, ?_⟩
      rcases hfull with rfl | ⟨src', hmem, hlt⟩
      · exact .inl rfl
      · exact .inr ⟨src', List.mem_cons_of_mem _ hmem, hlt⟩
    · have hput : put cap buf src = buf := if_neg hfit
      refine ⟨tail, by rw [hput], List.sublist_append_of_sublist_right hsub, .inr ⟨src, List.mem_cons_self .., ?_⟩⟩
      rw [List.length_append]
      omega

theorem pack_le (h : used ≤ cap) (sizes : List Nat) : pack cap used sizes ≤ cap := by
  induction sizes generalizing used with
  | nil => exact h
  | cons n sizes ih =>
    refine ih ?_
    split <;> omega

/-! ## Pieces that may be cut -/

/-- A text that is put if it fits, or as far as it fits. -/
inductive Piece (α : Type*) where
  | whole (src : List α)
  | cut (src : List α)

namespace Piece

def text : Piece α → List α
  | whole src => src
  | cut src => src

/-- Appending a piece to a buffer with room for `cap` elements. -/
def put (cap : Nat) (buf : List α) : Piece α → List α
  | whole src => Framework.put cap buf src
  | cut src => buf ++ src.take (cap - buf.length)

/-- The room used then. -/
def fill (cap used : Nat) : Piece α → Nat
  | whole src => if used + src.length ≤ cap then used + src.length else used
  | cut src => used + min (cap - used) src.length

theorem length_put (p : Piece α) : (p.put cap buf).length = p.fill cap buf.length := by
  cases p with
  | whole src => exact Framework.length_put
  | cut src => rw [put, fill, List.length_append, List.length_take]

theorem length_foldl_put (ps : List (Piece α)) (buf : List α) :
    (ps.foldl (put cap) buf).length = ps.foldl (fill cap) buf.length := by
  induction ps generalizing buf with
  | nil => rfl
  | cons p ps ih => rw [List.foldl_cons, ih, length_put, List.foldl_cons]

theorem fill_le (h : used ≤ cap) (p : Piece α) : p.fill cap used ≤ cap := by
  cases p with
  | whole src =>
    rw [fill]
    split <;> omega
  | cut src =>
    rw [fill]
    omega

theorem foldl_fill_le (h : used ≤ cap) (ps : List (Piece α)) : ps.foldl (fill cap) used ≤ cap := by
  induction ps generalizing used with
  | nil => exact h
  | cons p ps ih => exact ih (fill_le h p)

theorem isPrefix_put (p : Piece α) : buf <+: p.put cap buf := by
  cases p with
  | whole src =>
    rw [put, Framework.put]
    split
    · exact List.prefix_append ..
    · exact List.prefix_rfl
  | cut src => exact List.prefix_append ..

theorem isPrefix_foldl_put (ps : List (Piece α)) (buf : List α) : buf <+: ps.foldl (put cap) buf := by
  induction ps generalizing buf with
  | nil => exact List.prefix_rfl
  | cons p ps ih => exact (isPrefix_put p).trans (ih _)

theorem mem_foldl_put {a : α} (ps : List (Piece α)) (h : a ∈ ps.foldl (put cap) buf) :
    a ∈ buf ∨ ∃ p ∈ ps, a ∈ p.text := by
  induction ps generalizing buf with
  | nil => exact .inl h
  | cons p ps ih =>
    rcases ih h with h | ⟨q, hq, h⟩
    · have hp : a ∈ buf ∨ a ∈ p.text := by
        cases p with
        | whole src => exact mem_put h
        | cut src => exact (List.mem_append.mp h).imp id List.mem_of_mem_take
      exact hp.imp id fun h => ⟨p, List.mem_cons_self .., h⟩
    · exact .inr ⟨q, List.mem_cons_of_mem _ hq, h⟩

/-- Nothing is put into a full buffer. -/
theorem foldl_put_full (ps : List (Piece α)) (h : buf.length = cap) : ps.foldl (put cap) buf = buf := by
  induction ps with
  | nil => rfl
  | cons p ps ih =>
    have hp : p.put cap buf = buf := by
      cases p with
      | whole src =>
        rw [put, Framework.put]
        split
        · rw [List.eq_nil_of_length_eq_zero (by omega : src.length = 0), List.append_nil]
        · rfl
      | cut src => rw [put, h, Nat.sub_self, List.take_zero, List.append_nil]
    rw [List.foldl_cons, hp, ih]

theorem foldl_put_append (pre : List α) (ps : List (Piece α)) (buf : List α) :
    ps.foldl (put (pre.length + cap)) (pre ++ buf) = pre ++ ps.foldl (put cap) buf := by
  induction ps generalizing buf with
  | nil => rfl
  | cons p ps ih =>
    have hp : p.put (pre.length + cap) (pre ++ buf) = pre ++ p.put cap buf := by
      cases p with
      | whole src =>
        rw [put, put, Framework.put, Framework.put, List.length_append]
        by_cases hfit : buf.length + src.length ≤ cap
        · rw [if_pos hfit, if_pos (by omega), List.append_assoc]
        · rw [if_neg hfit, if_neg (by omega)]
      | cut src => rw [put, put, List.length_append, Nat.add_sub_add_left, List.append_assoc]
    rw [List.foldl_cons, List.foldl_cons, hp, ih]

/-- Everything fits. -/
theorem foldl_put_of_le {ps : List (Piece α)} (h : buf.length + (ps.flatMap text).length ≤ cap) :
    ps.foldl (put cap) buf = buf ++ ps.flatMap text := by
  induction ps generalizing buf with
  | nil => exact (List.append_nil _).symm
  | cons p ps ih =>
    rw [List.flatMap_cons, List.length_append] at h
    have hp : p.put cap buf = buf ++ p.text := by
      cases p with
      | whole src => exact put_of_le (by rw [Piece.text] at h; omega)
      | cut src => rw [put, List.take_of_length_le (by rw [Piece.text] at h; omega), Piece.text]
    rw [List.foldl_cons, hp, ih (by rw [List.length_append]; omega), List.flatMap_cons, List.append_assoc]

end Piece

/-! ## What holds of all that is put together -/

/-- A property that lists have when their parts do. -/
structure Joins (P : List α → Prop) : Prop where
  nil : P []
  append : ∀ {a b}, P a → P b → P (a ++ b)

namespace Joins

variable {P : List α → Prop}

theorem put (h : Joins P) (hbuf : P buf) (hsrc : P src) : P (put cap buf src) := by
  unfold Framework.put
  split
  · exact h.append hbuf hsrc
  · exact hbuf

theorem foldl_put (h : Joins P) (hbuf : P buf) {srcs : List (List α)} (hsrcs : ∀ s ∈ srcs, P s) :
    P (srcs.foldl (Framework.put cap) buf) := by
  induction srcs generalizing buf with
  | nil => exact hbuf
  | cons s srcs ih =>
    rw [List.forall_mem_cons] at hsrcs
    exact ih (h.put hbuf hsrcs.1) hsrcs.2

theorem intercalate (h : Joins P) {c : α} (hc : P [c]) {parts : List (List α)} (hparts : ∀ p ∈ parts, P p) :
    P ([c].intercalate parts) := by
  induction parts with
  | nil => exact h.nil
  | cons p parts ih =>
    rw [List.forall_mem_cons] at hparts
    cases parts with
    | nil =>
      rw [List.intercalate_singleton]
      exact hparts.1
    | cons q parts =>
      rw [List.intercalate_cons_cons]
      exact h.append (h.append hparts.1 hc) (ih hparts.2)

end Joins

end Framework
