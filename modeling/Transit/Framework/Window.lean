import Mathlib.Data.List.DropRight

/-!
# A window over the end of a sequence

`push` appends to a window of bounded size, where the oldest element makes
room. What the window holds of a sequence pushed into it is the end of that
sequence (`foldl_push`).
-/

namespace Framework

variable {α β : Type*}

/-- Appends to a window of at most `room` elements, shifting the oldest out. -/
def push (room : Nat) (window : List α) (a : α) : List α :=
  if window.length ≥ room then window.tail ++ [a] else window ++ [a]

theorem length_rtake (l : List α) (n : Nat) : (l.rtake n).length = min n l.length := by
  unfold List.rtake
  rw [List.length_drop]
  omega

theorem rtake_of_length_le {l : List α} {n : Nat} (h : l.length ≤ n) : l.rtake n = l := by
  unfold List.rtake
  rw [show l.length - n = 0 by omega, List.drop_zero]

/-- The end of the end. -/
theorem rtake_rtake (l : List α) {m n : Nat} (h : m ≤ n) : (l.rtake n).rtake m = l.rtake m := by
  have hlen := length_rtake l n
  unfold List.rtake at hlen ⊢
  rw [List.drop_drop, hlen]
  congr 1
  omega

theorem tail_rtake {l : List α} {n : Nat} (h : n < l.length) : (l.rtake (n + 1)).tail = l.rtake n := by
  unfold List.rtake
  rw [List.tail_drop]
  congr 1
  omega

theorem map_rtake (f : α → β) (l : List α) (n : Nat) : (l.map f).rtake n = (l.rtake n).map f := by
  unfold List.rtake
  rw [List.length_map, List.map_drop]

theorem rtake_suffix (l : List α) (n : Nat) : l.rtake n <:+ l := List.drop_suffix _ _

/-- One step: the window slides on by one element. -/
theorem push_rtake {room : Nat} (h : 0 < room) (l : List α) (a : α) :
    push room (l.rtake room) a = (l ++ [a]).rtake room := by
  obtain ⟨n, rfl⟩ : ∃ n, room = n + 1 := ⟨room - 1, by omega⟩
  rw [List.rtake_concat_succ]
  unfold push
  rw [length_rtake]
  by_cases hfull : n < l.length
  · rw [if_pos (by omega), tail_rtake hfull]
  · rw [if_neg (by omega), rtake_of_length_le (show l.length ≤ n + 1 by omega),
      rtake_of_length_le (show l.length ≤ n by omega)]

/-- After a whole sequence the window holds the end of it. -/
theorem foldl_push {room : Nat} (h : 0 < room) (l : List α) : l.foldl (push room) [] = l.rtake room := by
  induction l using List.reverseRecOn with
  | nil => rw [List.rtake_nil]; rfl
  | append_singleton l a ih => rw [List.foldl_append, ih]; exact push_rtake h l a

end Framework
