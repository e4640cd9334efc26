import Mathlib.Data.List.DropRight
import Mathlib.Tactic.Common

/-!
# Arrays of a fixed size

Reads and writes have to stay inside the array: `none` stands for an access that
does not. `Holds` is a list kept in an array up to a stop element, as C strings
are; each operation has a lemma about the list that it leaves. A `Table` is a
function kept in an array, `ofList` a list kept at its start.
-/

namespace Framework

/-- An array of `n` elements. -/
abbrev FixedArray (α : Type*) (n : Nat) := { l : List α // l.length = n }

namespace FixedArray

variable {α : Type*} {n : Nat}

/-- All elements are set to `x`. -/
def fill (n : Nat) (x : α) : FixedArray α n := ⟨List.replicate n x, List.length_replicate⟩

def read (a : FixedArray α n) (i : Nat) : Option α := a.val[i]?

def write (a : FixedArray α n) (i : Nat) (x : α) : Option (FixedArray α n) :=
  if i < n then some ⟨a.val.set i x, List.length_set.trans a.2⟩ else none

/-- One element is changed, by steps that can fail. -/
def update (a : FixedArray α n) (i : Nat) (f : α → Option α) : Option (FixedArray α n) :=
  (a.read i).bind fun x => (f x).bind fun y => a.write i y

/-- `len` elements from `src` on are copied to `dst`; the places may overlap. -/
def move (a : FixedArray α n) (dst src len : Nat) : Option (FixedArray α n) :=
  if h : dst + len ≤ n ∧ src + len ≤ n then
    some ⟨a.val.take dst ++ (a.val.drop src).take len ++ a.val.drop (dst + len), by
      have hlen := a.2
      simp only [List.length_append, List.length_take, List.length_drop]
      omega⟩
  else none

/-- The elements of `l`, which stand from `i` on, are read as long as `p` holds. -/
def scanList (p : α → Bool) : (l : List α) → (i : Nat) → Option Nat
  | [], _ => none
  | x :: l, i => if p x then scanList p l (i + 1) else some i

/-- The first place from `i` on at which `p` does not hold. -/
def scan (a : FixedArray α n) (p : α → Bool) (i : Nat) : Option Nat := scanList p (a.val.drop i) i

/-- Whether `w` stands at `i`; nothing is read behind the first difference. -/
def matchesAt [DecidableEq α] (a : FixedArray α n) : (i : Nat) → (w : List α) → Option Bool
  | _, [] => some true
  | i, x :: w => (a.read i).bind fun b => if b = x then a.matchesAt (i + 1) w else some false

/-- From before `k` down, elements are set to `x` as long as `p` holds at them. -/
def clearBack (p : α → Bool) (x : α) : (a : FixedArray α n) → (k : Nat) → Option (FixedArray α n)
  | a, 0 => some a
  | a, k + 1 => (a.read k).bind fun b => if p b then (a.write k x).bind fun a => clearBack p x a k else some a

/-- The array holds `s`, ended by `stop`. -/
def Holds (stop : α) (a : FixedArray α n) (s : List α) : Prop := stop ∉ s ∧ ∃ rest, a.val = s ++ stop :: rest

/-- The array holds the values of `f`. -/
def Table (a : FixedArray α n) (f : Nat → α) : Prop := ∀ i < n, a.read i = some (f i)

/-- The first elements are those of `l`, the others `pad`. -/
def ofList (n : Nat) (pad : α) (l : List α) : FixedArray α n :=
  ⟨l.take n ++ List.replicate (n - l.length) pad, by
    rw [List.length_append, List.length_take, List.length_replicate]
    omega⟩

variable {a : FixedArray α n} {s rest : List α} {x stop : α}

/-! ## Reads and writes -/

theorem read_of_eq (h : a.val = s ++ x :: rest) : a.read s.length = some x := by
  unfold read
  rw [h, List.getElem?_append_right (Nat.le_refl _), Nat.sub_self, List.getElem?_cons_zero]

theorem write_of_eq (h : a.val = s ++ x :: rest) (y : α) :
    ∃ a', a.write s.length y = some a' ∧ a'.val = s ++ y :: rest := by
  have hlen := a.2
  rw [h, List.length_append, List.length_cons] at hlen
  refine ⟨_, if_pos (by omega), ?_⟩
  show a.val.set s.length y = _
  rw [h, List.set_append_right _ _ (Nat.le_refl _), Nat.sub_self, List.set_cons_zero]

theorem update_of_eq (h : a.val = s ++ x :: rest) {f : α → Option α} {y : α} (hf : f x = some y) :
    ∃ a', a.update s.length f = some a' ∧ a'.val = s ++ y :: rest := by
  unfold update
  rw [read_of_eq h, Option.bind_some, hf, Option.bind_some]
  exact write_of_eq h y

/-- A list that stands at the start of an array is ended by one write. -/
theorem holds_of_write (h : a.val = s ++ x :: rest) (hs : stop ∉ s) :
    ∃ a', a.write s.length stop = some a' ∧ Holds stop a' s := by
  obtain ⟨a', hwrite, ha'⟩ := write_of_eq h stop
  exact ⟨a', hwrite, hs, rest, ha'⟩

theorem Holds.length_lt (h : Holds stop a s) : s.length < n := by
  obtain ⟨-, rest, hrest⟩ := h
  have hlen := congrArg List.length hrest
  rw [a.2, List.length_append, List.length_cons] at hlen
  omega

/-! ## Tables and lists -/

theorem table_fill (x : α) : (fill n x).Table fun _ => x := fun i hi => by
  unfold read fill
  rw [List.getElem?_replicate, if_pos hi]

theorem Table.write {f : Nat → α} (h : a.Table f) {i : Nat} (hi : i < n) (y : α) :
    ∃ a', a.write i y = some a' ∧ a'.Table (Function.update f i y) := by
  refine ⟨_, if_pos hi, fun j hj => ?_⟩
  have hread := h j hj
  unfold read at hread ⊢
  rw [List.getElem?_set, a.2, if_pos hi]
  by_cases hij : i = j
  · rw [if_pos hij, hij, Function.update_self]
  · rw [if_neg hij, hread, Function.update_of_ne (Ne.symm hij)]

/-- A list at the start of an array grows by a write behind it. -/
theorem write_behind (h : s <+: a.val) (hs : s.length < n) (y : α) :
    ∃ a', a.write s.length y = some a' ∧ s ++ [y] <+: a'.val := by
  obtain ⟨rest, hrest⟩ := h
  have hlen := congrArg List.length hrest
  rw [List.length_append, a.2] at hlen
  obtain ⟨x, rest, rfl⟩ := List.exists_cons_of_length_pos (l := rest) (by omega)
  obtain ⟨a', hwrite, ha'⟩ := write_of_eq hrest.symm y
  exact ⟨a', hwrite, rest, by rw [ha', List.append_assoc]; rfl⟩

theorem read_start (h : s <+: a.val) {i : Nat} (hi : i < s.length) : a.read i = s[i]? := by
  obtain ⟨rest, hrest⟩ := h
  unfold read
  rw [← hrest, List.getElem?_append_left hi]

theorem val_ofList {pad : α} (h : s.length ≤ n) : (ofList n pad s).val = s ++ List.replicate (n - s.length) pad := by
  show s.take n ++ _ = _
  rw [List.take_of_length_le h]

theorem ofList_nil (pad : α) : ofList n pad [] = fill n pad := Subtype.ext (val_ofList (Nat.zero_le n))

theorem read_ofList {pad : α} (h : s.length ≤ n) {i : Nat} (hi : i < s.length) : (ofList n pad s).read i = s[i]? :=
  read_start ⟨_, (val_ofList h).symm⟩ hi

theorem replicate_sub_cons (pad : α) (h : s.length < n) :
    List.replicate (n - s.length) pad = pad :: List.replicate (n - (s.length + 1)) pad := by
  rw [show n - s.length = n - (s.length + 1) + 1 by omega, List.replicate_succ]

/-- Writing behind the list makes it longer. -/
theorem write_ofList (pad : α) (h : s.length < n) (y : α) :
    (ofList n pad s).write s.length y = some (ofList n pad (s ++ [y])) := by
  have hval : (ofList n pad s).val = s ++ pad :: List.replicate (n - (s.length + 1)) pad := by
    rw [val_ofList (Nat.le_of_lt h), replicate_sub_cons pad h]
  obtain ⟨a', hwrite, ha'⟩ := write_of_eq hval y
  rw [hwrite]
  refine congrArg some (Subtype.ext ?_)
  rw [ha', val_ofList (by rw [List.length_append, List.length_singleton]; omega), List.length_append,
    List.length_singleton, List.append_assoc]
  rfl

/-- The element that is there already changes nothing. -/
theorem ofList_concat_pad (pad : α) (h : s.length < n) : ofList n pad (s ++ [pad]) = ofList n pad s := by
  refine Subtype.ext ?_
  rw [val_ofList (by rw [List.length_append, List.length_singleton]; omega), val_ofList (Nat.le_of_lt h),
    List.length_append, List.length_singleton, List.append_assoc, replicate_sub_cons pad h]
  rfl

/-! ## Scans -/

theorem scanList_append {p : α → Bool} (hx : p x = false) (l rest : List α) (i : Nat) :
    scanList p (l ++ x :: rest) i = some (i + (l.takeWhile p).length) := by
  induction l generalizing i with
  | nil =>
    rw [List.nil_append, scanList, hx]
    rfl
  | cons b l ih =>
    rw [List.cons_append, scanList, List.takeWhile_cons]
    cases p b with
    | false => rfl
    | true =>
      rw [if_pos rfl, if_pos rfl, ih, List.length_cons]
      exact congrArg some (by omega)

/-- A scan that ends at the stop element stays inside. -/
theorem Holds.scan_eq (h : Holds stop a s) {p : α → Bool} (hp : p stop = false) {i : Nat} (hi : i ≤ s.length) :
    a.scan p i = some (i + ((s.drop i).takeWhile p).length) := by
  obtain ⟨-, rest, hrest⟩ := h
  unfold scan
  rw [hrest, List.drop_append_of_le_length hi, scanList_append hp]

/-- The length of the list. -/
theorem Holds.scan_stop [DecidableEq α] (h : Holds stop a s) {i : Nat} (hi : i ≤ s.length) :
    a.scan (fun b => decide (b ≠ stop)) i = some s.length := by
  have hall : ∀ b ∈ s.drop i, decide (b ≠ stop) = true := fun b hb =>
    decide_eq_true fun hstop => h.1 (hstop ▸ List.mem_of_mem_drop hb)
  rw [h.scan_eq (decide_eq_false (not_not_intro rfl)) hi, List.takeWhile_eq_self_iff.mpr hall, List.length_drop]
  exact congrArg some (by omega)

theorem Holds.matchesAt_eq [DecidableEq α] (h : Holds stop a s) {w : List α} (hw : stop ∉ w) {i : Nat}
    (hi : i ≤ s.length) : a.matchesAt i w = some (w.isPrefixOf (s.drop i)) := by
  induction w generalizing i with
  | nil => rfl
  | cons x w ih =>
    rw [List.mem_cons, not_or] at hw
    obtain ⟨hs, rest, hrest⟩ := h
    unfold matchesAt
    rcases Nat.lt_or_eq_of_le hi with hlt | rfl
    · have hread : a.read i = some s[i] := by
        unfold read
        rw [hrest, List.getElem?_append_left hlt, List.getElem?_eq_getElem hlt]
      rw [hread, Option.bind_some, List.drop_eq_getElem_cons hlt, List.isPrefixOf_cons_cons]
      by_cases hx : s[i] = x
      · rw [if_pos hx, ih hw.2 hlt, hx, beq_self_eq_true, Bool.true_and]
      · rw [if_neg hx, beq_false_of_ne (Ne.symm hx), Bool.false_and]
    · rw [read_of_eq hrest, Option.bind_some, if_neg hw.1, List.drop_length]
      rfl

/-! ## Changes in place -/

/-- The list is moved to the front, with its stop element. -/
theorem Holds.move_front (h : Holds stop a s) {k : Nat} (hk : k ≤ s.length) :
    ∃ a', a.move 0 k (s.length - k + 1) = some a' ∧ Holds stop a' (s.drop k) := by
  have hlt := h.length_lt
  obtain ⟨hs, rest, hrest⟩ := h
  refine ⟨_, dif_pos (by omega), fun hm => hs (List.mem_of_mem_drop hm), a.val.drop (0 + (s.length - k + 1)), ?_⟩
  have htake : (a.val.drop k).take (s.length - k + 1) = s.drop k ++ [stop] := by
    rw [hrest, List.drop_append_of_le_length hk, List.append_cons]
    exact List.take_left' (by rw [List.length_append, List.length_drop, List.length_singleton])
  show a.val.take 0 ++ (a.val.drop k).take (s.length - k + 1) ++ _ = _
  rw [htake, List.take_zero, List.nil_append, List.append_assoc, List.singleton_append]

/-- The elements at the end of the list are taken off. -/
theorem Holds.clearBack_eq (h : Holds stop a s) (p : α → Bool) :
    ∃ a', clearBack p stop a s.length = some a' ∧ Holds stop a' (s.rdropWhile p) := by
  induction s using List.reverseRecOn generalizing a with
  | nil => exact ⟨a, rfl, h⟩
  | append_singleton s b ih =>
    obtain ⟨hs, rest, hrest⟩ := h
    rw [List.append_assoc, List.singleton_append] at hrest
    rw [List.mem_append, not_or] at hs
    rw [List.length_append, List.length_singleton, clearBack, read_of_eq hrest, Option.bind_some]
    cases hb : p b with
    | false =>
      rw [if_neg Bool.false_ne_true, List.rdropWhile_concat_neg _ _ _ (by simp [hb])]
      exact ⟨a, rfl, by simpa using hs, rest, by simpa using hrest⟩
    | true =>
      obtain ⟨a', hwrite, ha'⟩ := holds_of_write hrest hs.1
      rw [if_pos rfl, hwrite, Option.bind_some, List.rdropWhile_concat_pos _ _ _ hb]
      exact ih ha'

end FixedArray

end Framework
