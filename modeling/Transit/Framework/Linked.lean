import Transit.Framework.Heap

/-!
# Linked lists on a heap

The nodes of a list are blocks with a value and the pointer to the next node. A
`NodeKind` says how such a block is laid out; a heap may hold lists of several
kinds. `segment` are the blocks of a list whose addresses and values are known.
The loops over a list follow its pointers; each has a lemma about these blocks.

* `Owns.findNode`, `Owns.readNodes`: what the loops that read find.
* `Owns.push`, `Owns.insert`, `Owns.update`: a node put in front, or in between, or changed.
* `Owns.freeNodes`: a list is freed, with what its nodes own.
-/

namespace Framework

variable {β α : Type*}

/-- How a node is laid out in a block. -/
structure NodeKind (β α : Type*) where
  block : α → Ptr → β
  read : β → Option (α × Ptr)
  read_block : ∀ a next, read (block a next) = some (a, next)

/-- The pointer to the first node; `last` without one. -/
def start : List (Addr × α) → (last : Ptr) → Ptr
  | [], last => last
  | (q, _) :: _, _ => some q

theorem start_append (l₁ l₂ : List (Addr × α)) (last : Ptr) : start (l₁ ++ l₂) last = start l₁ (start l₂ last) := by
  cases l₁ with
  | nil => rfl
  | cons c l₁ => rfl

namespace NodeKind

variable (k : NodeKind β α)

/-! ## The loops -/

def readNode (mem : Memory β) (p : Ptr) : Option (α × Ptr) := (mem.load p).bind k.read

/-- A new node is put in front of the list; `root` stays where there is no room for it. -/
def push (alloc : Allocator β) (mem : Memory β) (root : Ptr) (a : α) : Memory β × Ptr :=
  match mem.malloc alloc (k.block a root) with
  | (none, mem) => (mem, root)
  | (some q, mem) => (mem, some q)

/-- The first node with `p`. -/
def findNode (p : α → Bool) : (fuel : Nat) → Memory β → (cur : Ptr) → Option Ptr
  | _, _, none => some none
  | 0, _, some _ => none
  | fuel + 1, mem, some q =>
    (k.readNode mem (some q)).bind fun (a, next) => if p a then some (some q) else findNode p fuel mem next

/-- The values of a list. -/
def readNodes : (fuel : Nat) → Memory β → (cur : Ptr) → Option (List α)
  | _, _, none => some []
  | 0, _, some _ => none
  | fuel + 1, mem, some q =>
    (k.readNode mem (some q)).bind fun (a, next) => (readNodes fuel mem next).map (a :: ·)

/-- A pointer to a pointer goes along the list as long as `keep` holds: the node in
which it stands, `none` for the root, and the pointer that it points to. -/
def place (keep : α → Bool) : (fuel : Nat) → Memory β → (slot cur : Ptr) → Option (Ptr × Ptr)
  | _, _, slot, none => some (slot, none)
  | 0, _, _, some _ => none
  | fuel + 1, mem, slot, some q =>
    (k.readNode mem (some q)).bind fun (a, next) =>
    if keep a then place keep fuel mem (some q) next else some (slot, some q)

/-- Writing to the place found: the memory, and the root. -/
def writeSlot (mem : Memory β) (root slot p : Ptr) : Option (Memory β × Ptr) :=
  match slot with
  | none => some (mem, p)
  | some _ =>
    (k.readNode mem slot).bind fun (a, _) => (mem.store slot (k.block a p)).map fun mem => (mem, root)

/-- A new node is put in front of the first node at which `keep` does not hold. -/
def insert (alloc : Allocator β) (keep : α → Bool) (fuel : Nat) (mem : Memory β) (root : Ptr) (a : α) :
    Option (Memory β × Ptr) :=
  match mem.malloc alloc (k.block a none) with
  | (none, mem) => some (mem, root)
  | (some q, mem) =>
    (k.place keep fuel mem none root).bind fun (slot, next) =>
    (mem.store (some q) (k.block a next)).bind fun mem => k.writeSlot mem root slot (some q)

/-- The nodes of a list are freed one by one; `before` is done with a node's value first. -/
def freeNodes (before : Memory β → α → Option (Memory β)) : (fuel : Nat) → Memory β → (cur : Ptr) → Option (Memory β)
  | _, mem, none => some mem
  | 0, _, some _ => none
  | fuel + 1, mem, some q =>
    (k.readNode mem (some q)).bind fun (a, next) =>
    (before mem a).bind fun mem =>
    (mem.free (some q)).bind fun mem => freeNodes before fuel mem next

/-! ## The blocks of a list -/

/-- The blocks of a list that ends with the pointer `last`. -/
def segment : List (Addr × α) → (last : Ptr) → Blocks β
  | [], _ => 0
  | (q, a) :: l, last => cell q (k.block a (start l last)) + segment l last

theorem segment_append (l₁ l₂ : List (Addr × α)) (last : Ptr) :
    k.segment (l₁ ++ l₂) last = k.segment l₁ (start l₂ last) + k.segment l₂ last := by
  induction l₁ with
  | nil => exact (zero_add _).symm
  | cons c l₁ ih =>
    show cell c.1 (k.block c.2 (start (l₁ ++ l₂) last)) + k.segment (l₁ ++ l₂) last = _
    rw [ih, start_append, ← add_assoc]
    rfl

theorem card_segment (l : List (Addr × α)) (last : Ptr) : Multiset.card (k.segment l last) = l.length := by
  induction l with
  | nil => rfl
  | cons c l ih =>
    show Multiset.card (cell c.1 (k.block c.2 (start l last)) + k.segment l last) = _
    rw [Multiset.card_add, Multiset.card_singleton, ih, List.length_cons, Nat.add_comm]

/-- The node last passed, on a way that starts at `slot`. -/
def lastNode : (slot : Ptr) → List (Addr × α) → Ptr
  | slot, [] => slot
  | _, (q, _) :: l => lastNode (some q) l

theorem lastNode_concat (slot : Ptr) (l : List (Addr × α)) (q : Addr) (a : α) :
    lastNode slot (l ++ [(q, a)]) = some q := by
  induction l generalizing slot with
  | nil => rfl
  | cons c l ih => exact ih (some c.1)

/-- The blocks around one node of a list. -/
theorem segment_split (t d : List (Addr × α)) (q : Addr) (a : α) :
    k.segment (t ++ (q, a) :: d) none =
      cell q (k.block a (start d none)) + (k.segment t (some q) + k.segment d none) := by
  rw [segment_append]
  show k.segment t (some q) + (cell q (k.block a (start d none)) + k.segment d none) = _
  abel

end NodeKind

namespace Memory

variable {k : NodeKind β α} {mem : Memory β} {m : Blocks β} {l t d : List (Addr × α)} {q : Addr} {a : α} {fuel : Nat}

/-- A list is no longer than the number of blocks. -/
theorem Owns.length_le {last : Ptr} (h : mem.Owns (k.segment l last + m)) : l.length ≤ mem.size := by
  rw [h.size_eq, Multiset.card_add, k.card_segment]
  omega

/-- The first node of a list, and the others. -/
theorem Owns.uncons {last : Ptr} (h : mem.Owns (k.segment ((q, a) :: l) last + m)) :
    mem.Owns (cell q (k.block a (start l last)) + (k.segment l last + m)) :=
  h.of_eq (add_assoc _ _ _)

theorem Owns.readNode {next : Ptr} (h : mem.Owns (cell q (k.block a next) + m)) :
    k.readNode mem (some q) = some (a, next) := by
  unfold NodeKind.readNode
  rw [h.load, Option.bind_some, k.read_block]

/-! ## Reading -/

theorem Owns.findNode (h : mem.Owns (k.segment l none + m)) (hfuel : l.length ≤ fuel) (p : α → Bool) :
    k.findNode p fuel mem (start l none) = some ((l.find? fun c => p c.2).map Prod.fst) := by
  induction l generalizing m fuel with
  | nil => cases fuel <;> rfl
  | cons c l ih =>
    obtain ⟨q, a⟩ := c
    obtain ⟨fuel, rfl⟩ := Nat.exists_eq_add_of_lt hfuel
    show (k.readNode mem (some q)).bind _ = _
    rw [h.uncons.readNode, Option.bind_some, List.find?_cons]
    cases hp : p a with
    | true => simp only [hp, if_true, Option.map_some]
    | false =>
      simp only [hp, Bool.false_eq_true, if_false]
      apply ih (m := cell q (k.block a (start l none)) + m)
      · exact h.uncons.of_eq (by abel)
      · omega

theorem Owns.readNodes (h : mem.Owns (k.segment l none + m)) (hfuel : l.length ≤ fuel) :
    k.readNodes fuel mem (start l none) = some (l.map Prod.snd) := by
  induction l generalizing m fuel with
  | nil => cases fuel <;> rfl
  | cons c l ih =>
    obtain ⟨q, a⟩ := c
    obtain ⟨fuel, rfl⟩ := Nat.exists_eq_add_of_lt hfuel
    have hrest : k.readNodes (l.length + fuel) mem (start l none) = some (l.map Prod.snd) :=
      ih (m := cell q (k.block a (start l none)) + m) (h.uncons.of_eq (by abel)) (by omega)
    show (k.readNode mem (some q)).bind _ = _
    rw [h.uncons.readNode, Option.bind_some]
    show (k.readNodes (l.length + fuel) mem (start l none)).map _ = _
    rw [hrest]
    rfl

/-! ## Changing -/

/-- A node in front. -/
theorem Owns.push (h : mem.Owns (k.segment l none + m)) (alloc : Allocator β) (a : α) :
    ∃ l', (k.push alloc mem (start l none) a).2 = start l' none ∧
      (k.push alloc mem (start l none) a).1.Owns (k.segment l' none + m) ∧
      ((∃ q, l' = (q, a) :: l) ∨ l' = l ∧ ¬ alloc.Total) := by
  unfold NodeKind.push
  rcases h.malloc alloc (k.block a (start l none)) with ⟨q, hq, howns⟩ | ⟨hq, howns, htotal⟩
  · rw [← Prod.eta (mem.malloc alloc _), hq]
    exact ⟨(q, a) :: l, rfl, howns.of_eq (add_assoc _ _ _).symm, .inl ⟨q, rfl⟩⟩
  · rw [← Prod.eta (mem.malloc alloc _), hq]
    exact ⟨l, rfl, howns, .inr ⟨rfl, htotal⟩⟩

/-- A node's value is read, and written anew. -/
theorem Owns.update (h : mem.Owns (k.segment (t ++ (q, a) :: d) none + m)) (a' : α) :
    k.readNode mem (some q) = some (a, start d none) ∧
      ∃ mem', mem.store (some q) (k.block a' (start d none)) = some mem' ∧
        mem'.Owns (k.segment (t ++ (q, a') :: d) none + m) := by
  have hq := h.of_eq (congrArg (· + m) (k.segment_split t d q a))
  rw [add_assoc] at hq
  obtain ⟨mem', hstore, hmem'⟩ := hq.store (k.block a' (start d none))
  refine ⟨hq.readNode, mem', hstore, hmem'.of_eq ?_⟩
  rw [k.segment_split]
  abel

/-- The place at which `keep` does not hold any more. -/
theorem Owns.place (h : mem.Owns (k.segment l none + m)) (hfuel : l.length ≤ fuel) (keep : α → Bool) (slot : Ptr) :
    k.place keep fuel mem slot (start l none) =
      some (NodeKind.lastNode slot (l.takeWhile fun c => keep c.2), start (l.dropWhile fun c => keep c.2) none) := by
  induction l generalizing m fuel slot with
  | nil => cases fuel <;> rfl
  | cons c l ih =>
    obtain ⟨q, a⟩ := c
    obtain ⟨fuel, rfl⟩ := Nat.exists_eq_add_of_lt hfuel
    show (k.readNode mem (some q)).bind _ = _
    rw [h.uncons.readNode, Option.bind_some, List.takeWhile_cons, List.dropWhile_cons]
    cases hkeep : keep a with
    | false =>
      simp only [hkeep, Bool.false_eq_true, if_false]
      rfl
    | true =>
      simp only [hkeep, if_true]
      apply ih (m := cell q (k.block a (start l none)) + m)
      · exact h.uncons.of_eq (by abel)
      · omega

/-- A node that points to the rest of the list is put in its place. -/
theorem Owns.writeSlot (h : mem.Owns (k.segment (t ++ d) none + (cell q (k.block a (start d none)) + m))) :
    ∃ mem', k.writeSlot mem (start (t ++ d) none) (NodeKind.lastNode none t) (some q) =
        some (mem', start (t ++ (q, a) :: d) none) ∧
      mem'.Owns (k.segment (t ++ (q, a) :: d) none + m) := by
  rcases List.eq_nil_or_concat' t with rfl | ⟨t, ⟨s, b⟩, rfl⟩
  · refine ⟨mem, rfl, h.of_eq ?_⟩
    show k.segment d none + _ = cell q (k.block a (start d none)) + k.segment d none + m
    abel
  · have hs : mem.Owns (cell s (k.block b (start d none)) +
        (k.segment t (some s) + k.segment d none + (cell q (k.block a (start d none)) + m))) :=
      h.of_eq (by rw [List.append_assoc, List.singleton_append, k.segment_split, add_assoc])
    obtain ⟨mem', hstore, hmem'⟩ := hs.store (k.block b (some q))
    refine ⟨mem', ?_, hmem'.of_eq ?_⟩
    · unfold NodeKind.writeSlot
      rw [NodeKind.lastNode_concat]
      show (k.readNode mem (some s)).bind _ = _
      rw [hs.readNode, Option.bind_some]
      show (mem.store (some s) (k.block b (some q))).map _ = _
      rw [hstore, List.append_assoc, List.append_assoc, start_append t, start_append t]
      rfl
    · rw [List.append_assoc, List.singleton_append, k.segment_split]
      show _ = cell s (k.block b (some q)) +
        (k.segment t (some s) + (cell q (k.block a (start d none)) + k.segment d none)) + m
      abel

/-- A node in its place. -/
theorem Owns.insert (h : mem.Owns (k.segment l none + m)) (alloc : Allocator β) (hfuel : l.length ≤ fuel)
    (keep : α → Bool) (a : α) :
    ∃ mem' l', k.insert alloc keep fuel mem (start l none) a = some (mem', start l' none) ∧
      mem'.Owns (k.segment l' none + m) ∧
      ((∃ q, l' = (l.takeWhile fun c => keep c.2) ++ (q, a) :: l.dropWhile fun c => keep c.2) ∨
        l' = l ∧ ¬ alloc.Total) := by
  unfold NodeKind.insert
  rcases h.malloc alloc (k.block a none) with ⟨q, hq, howns⟩ | ⟨hq, howns, htotal⟩
  · rw [← Prod.eta (mem.malloc alloc _), hq]
    have hplace := (howns.of_eq (show _ = k.segment l none + (cell q (k.block a none) + m) by abel)).place
      hfuel keep none
    obtain ⟨mem₁, hstore, hmem₁⟩ := howns.store (k.block a (start (l.dropWhile fun c => keep c.2) none))
    have hsplit : (l.takeWhile fun c => keep c.2) ++ (l.dropWhile fun c => keep c.2) = l :=
      List.takeWhile_append_dropWhile
    have hmem₁' : mem₁.Owns (k.segment ((l.takeWhile fun c => keep c.2) ++ l.dropWhile fun c => keep c.2) none +
        (cell q (k.block a (start (l.dropWhile fun c => keep c.2) none)) + m)) :=
      hmem₁.of_eq (by rw [hsplit]; abel)
    obtain ⟨mem₂, hslot, hmem₂⟩ := hmem₁'.writeSlot
    rw [hsplit] at hslot
    refine ⟨mem₂, _, ?_, hmem₂, .inl ⟨q, rfl⟩⟩
    show (k.place keep fuel _ none (start l none)).bind _ = _
    rw [hplace, Option.bind_some]
    show (Memory.store _ (some q) _).bind _ = _
    rw [hstore, Option.bind_some, hslot]
  · rw [← Prod.eta (mem.malloc alloc _), hq]
    exact ⟨_, l, rfl, howns, .inr ⟨rfl, htotal⟩⟩

/-! ## Freeing -/

/-- A list whose nodes own other blocks, which `before` frees, is freed with them. -/
theorem Owns.freeNodes {ι : Type*} {items : List ι} {addr : ι → Addr} {value : ι → α} {own : ι → Blocks β}
    {before : Memory β → α → Option (Memory β)}
    (hbefore : ∀ i ∈ items, ∀ (mem : Memory β) (m : Blocks β), mem.Owns (own i + m) →
      ∃ mem', before mem (value i) = some mem' ∧ mem'.Owns m)
    (h : mem.Owns (k.segment (items.map fun i => (addr i, value i)) none + (items.map own).sum + m))
    (hfuel : items.length ≤ fuel) :
    ∃ mem', k.freeNodes before fuel mem (start (items.map fun i => (addr i, value i)) none) = some mem' ∧
      mem'.Owns m := by
  induction items generalizing mem fuel with
  | nil => exact ⟨mem, by cases fuel <;> rfl, h.of_eq (by simp [NodeKind.segment])⟩
  | cons i items ih =>
    obtain ⟨fuel, rfl⟩ := Nat.exists_eq_add_of_lt hfuel
    have hi : mem.Owns (cell (addr i) (k.block (value i) (start (items.map fun i => (addr i, value i)) none)) +
        (own i + (k.segment (items.map fun i => (addr i, value i)) none + (items.map own).sum + m))) := by
      refine h.of_eq ?_
      rw [List.map_cons, List.map_cons, List.sum_cons]
      show cell _ _ + k.segment _ none + (own i + _) + m = _
      abel
    obtain ⟨mem₁, hbefore₁, hmem₁⟩ := hbefore i List.mem_cons_self mem _ (hi.of_eq (by
      rw [← add_assoc, add_comm (cell _ _), add_assoc]))
    obtain ⟨mem₂, hfree, hmem₂⟩ := hmem₁.free
    obtain ⟨mem₃, hrest, hmem₃⟩ := ih (fun j hj => hbefore j (List.mem_cons_of_mem _ hj)) hmem₂
      (show items.length ≤ items.length + fuel by omega)
    refine ⟨mem₃, ?_, hmem₃⟩
    show (k.readNode mem (some (addr i))).bind _ = _
    rw [hi.readNode, Option.bind_some]
    show (before mem (value i)).bind _ = _
    rw [hbefore₁, Option.bind_some]
    show (mem₁.free (some (addr i))).bind _ = _
    rw [hfree, Option.bind_some]
    exact hrest

/-- A list whose nodes own nothing else. -/
theorem Owns.freeList (h : mem.Owns (k.segment l none + m)) (hfuel : l.length ≤ fuel) :
    ∃ mem', k.freeNodes (fun mem _ => some mem) fuel mem (start l none) = some mem' ∧ mem'.Owns m := by
  have hl : (l.map fun c => (c.1, c.2)) = l := List.map_id l
  have := @Owns.freeNodes β α k mem m fuel _ l Prod.fst Prod.snd (fun _ => 0) (fun mem _ => some mem)
    (fun _ _ mem m h => ⟨mem, rfl, h.of_eq (zero_add m)⟩)
    (h.of_eq (by simp [hl])) hfuel
  rwa [hl] at this

end Memory

end Framework
