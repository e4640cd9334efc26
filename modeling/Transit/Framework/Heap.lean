import Mathlib.Data.Finmap
import Mathlib.Tactic.Abel

/-!
# A heap of blocks

Blocks are allocated, read, changed and freed through pointers. `none` stands for
an access to a block that is not allocated, and for freeing one that is not.
`Owns` says of a memory which blocks it holds, so that an operation's lemma
names the blocks it works on and leaves the others open: they stay as they are.

* `Owns.load`, `Owns.store`, `Owns.free`, `Owns.malloc`, `Owns.realloc`: one
  lemma for each operation.
-/

namespace Framework

abbrev Addr := Nat

/-- A pointer; `none` is the null pointer. -/
abbrev Ptr := Option Addr

/-- The blocks allocated. -/
abbrev Heap (β : Type*) := Finmap fun _ : Addr => β

/-- Blocks with their addresses. -/
abbrev Blocks (β : Type*) := Multiset (Sigma fun _ : Addr => β)

/-- The heap, and the number of allocations asked for so far. -/
structure Memory (β : Type*) where
  heap : Heap β
  requests : Nat

/-- Where each request puts its block: any place that is free, or nowhere. -/
structure Allocator (β : Type*) where
  place : Nat → Heap β → Ptr
  fresh : ∀ {n : Nat} {h : Heap β} {q : Addr}, place n h = some q → q ∉ h

variable {β : Type*}

/-- No request fails. -/
def Allocator.Total (alloc : Allocator β) : Prop := ∀ n h, alloc.place n h ≠ none

/-- A block is put at the first free address. -/
def Allocator.firstFit : Allocator β where
  place _ h := (List.range (h.keys.card + 1)).find? fun q => q ∉ h
  fresh h := by simpa using List.find?_some h

/-- One of the first addresses is free: there are not so many blocks. -/
theorem Allocator.total_firstFit : (Allocator.firstFit : Allocator β).Total := by
  intro n h hnone
  replace hnone : (List.range (h.keys.card + 1)).find? (fun q => q ∉ h) = none := hnone
  have hall : Finset.range (h.keys.card + 1) ⊆ h.keys := by
    intro q hq
    have hmem := List.find?_eq_none.mp hnone q (List.mem_range.mpr (Finset.mem_range.mp hq))
    exact Finmap.mem_keys.mpr (not_not.mp fun hnot => hmem (decide_eq_true hnot))
  have hcard := Finset.card_le_card hall
  rw [Finset.card_range] at hcard
  omega

/-- One block. -/
abbrev cell (q : Addr) (b : β) : Blocks β := {⟨q, b⟩}

namespace Memory

def load (mem : Memory β) (p : Ptr) : Option β := p.bind fun q => mem.heap.lookup q

def store (mem : Memory β) (p : Ptr) (b : β) : Option (Memory β) :=
  p.bind fun q => if q ∈ mem.heap then some { mem with heap := mem.heap.insert q b } else none

/-- Freeing the null pointer does nothing. -/
def free (mem : Memory β) : Ptr → Option (Memory β)
  | none => some mem
  | some q => if q ∈ mem.heap then some { mem with heap := mem.heap.erase q } else none

/-- A new block with its first contents, where there is room for it. -/
def malloc (alloc : Allocator β) (mem : Memory β) (b : β) : Ptr × Memory β :=
  match alloc.place mem.requests mem.heap with
  | none => (none, { mem with requests := mem.requests + 1 })
  | some q => (some q, { heap := mem.heap.insert q b, requests := mem.requests + 1 })

/-- The block at `p` gets new contents and may move; it stays where the request fails. -/
def realloc (alloc : Allocator β) (mem : Memory β) (p : Ptr) (b : β) : Option (Ptr × Memory β) :=
  (mem.free p).map fun freed =>
  match alloc.place mem.requests freed.heap with
  | none => (none, { mem with requests := mem.requests + 1 })
  | some q => (some q, { heap := freed.heap.insert q b, requests := mem.requests + 1 })

/-- The number of blocks. -/
def size (mem : Memory β) : Nat := mem.heap.keys.card

/-- The memory holds these blocks and no others. -/
def Owns (mem : Memory β) (m : Blocks β) : Prop := mem.heap.entries = m

variable {mem : Memory β} {m m' : Blocks β} {q : Addr} {b : β} {alloc : Allocator β}

theorem Owns.of_eq (h : mem.Owns m) (hm : m = m') : mem.Owns m' := h.trans hm

theorem Owns.size_eq (h : mem.Owns m) : mem.size = Multiset.card m := by
  show Multiset.card (mem.heap.entries.map Sigma.fst) = _
  rw [Multiset.card_map, show mem.heap.entries = m from h]

/-- Memories that hold the same blocks have the same heap. -/
theorem Owns.heap_eq (h : mem.Owns m) {h₀ : Heap β} (hm : m = h₀.entries) : mem.heap = h₀ :=
  Finmap.ext (Eq.trans h hm)

theorem Owns.lookup (h : mem.Owns (cell q b + m)) : mem.heap.lookup q = some b := by
  apply Finmap.mem_lookup_iff.mpr
  rw [show mem.heap.entries = cell q b + m from h]
  exact Multiset.mem_add.mpr (.inl (Multiset.mem_singleton_self _))

theorem Owns.mem_heap (h : mem.Owns (cell q b + m)) : q ∈ mem.heap := Finmap.mem_of_lookup_eq_some h.lookup

/-- The heap is the other blocks, with this one put in. -/
theorem Owns.split (h : mem.Owns (cell q b + m)) :
    ∃ rest : Heap β, rest.entries = m ∧ q ∉ rest ∧ mem.heap = rest.insert q b := by
  have hnodup : (⟨q, b⟩ ::ₘ m : Blocks β).keys.Nodup := by
    have hkeys := mem.heap.nodupKeys.nodup_keys
    rwa [show mem.heap.entries = cell q b + m from h, Multiset.singleton_add] at hkeys
  rw [Multiset.keys_cons, Multiset.nodup_cons] at hnodup
  let rest : Heap β := ⟨m, Multiset.nodup_keys.mp hnodup.2⟩
  have hnot : q ∉ rest := hnodup.1
  refine ⟨rest, rfl, hnot, Finmap.ext ?_⟩
  rw [Finmap.entries_insert_of_notMem hnot, ← Multiset.singleton_add]
  exact h

theorem Owns.load (h : mem.Owns (cell q b + m)) : mem.load (some q) = some b := h.lookup

theorem Owns.store (h : mem.Owns (cell q b + m)) (b' : β) :
    ∃ mem', mem.store (some q) b' = some mem' ∧ mem'.Owns (cell q b' + m) := by
  obtain ⟨rest, hrest, hnot, heap⟩ := h.split
  refine ⟨_, if_pos h.mem_heap, ?_⟩
  show (mem.heap.insert q b').entries = _
  rw [heap, Finmap.insert_insert, Finmap.entries_insert_of_notMem hnot, hrest, Multiset.singleton_add]

theorem Owns.free (h : mem.Owns (cell q b + m)) : ∃ mem', mem.free (some q) = some mem' ∧ mem'.Owns m := by
  obtain ⟨rest, hrest, hnot, heap⟩ := h.split
  refine ⟨_, if_pos h.mem_heap, ?_⟩
  have herase : mem.heap.erase q = rest := by
    apply Finmap.ext_lookup
    intro x
    by_cases hx : x = q
    · rw [hx, Finmap.lookup_erase, Finmap.lookup_eq_none.mpr hnot]
    · rw [Finmap.lookup_erase_ne hx, heap, Finmap.lookup_insert_of_ne _ hx]
  show (mem.heap.erase q).entries = m
  rw [herase, hrest]

theorem owns_insert {h : Heap β} (hm : h.entries = m) (hq : q ∉ h) (b : β) : (h.insert q b).entries = cell q b + m := by
  rw [Finmap.entries_insert_of_notMem hq, hm, Multiset.singleton_add]

/-- A request gives a new block, or fails. -/
theorem Owns.malloc (h : mem.Owns m) (alloc : Allocator β) (b : β) :
    (∃ q, (mem.malloc alloc b).1 = some q ∧ (mem.malloc alloc b).2.Owns (cell q b + m)) ∨
      (mem.malloc alloc b).1 = none ∧ (mem.malloc alloc b).2.Owns m ∧ ¬ alloc.Total := by
  unfold Memory.malloc
  cases hplace : alloc.place mem.requests mem.heap with
  | none => exact .inr ⟨rfl, h, fun htotal => htotal _ _ hplace⟩
  | some q => exact .inl ⟨q, rfl, owns_insert h (alloc.fresh hplace) b⟩

/-- A block that can be freed is moved and changed, or stays as it is. -/
theorem Owns.realloc {freed : Memory β} (h : freed.Owns m) {p : Ptr} (hfree : mem.free p = some freed)
    (alloc : Allocator β) (b : β) :
    ∃ r, mem.realloc alloc p b = some r ∧ ((∃ q, r.1 = some q ∧ r.2.Owns (cell q b + m)) ∨
      r.1 = none ∧ r.2.heap = mem.heap ∧ ¬ alloc.Total) := by
  unfold Memory.realloc
  rw [hfree]
  refine ⟨_, rfl, ?_⟩
  beta_reduce
  cases hplace : alloc.place mem.requests freed.heap with
  | none => exact .inr ⟨rfl, rfl, fun htotal => htotal _ _ hplace⟩
  | some q => exact .inl ⟨q, rfl, owns_insert h (alloc.fresh hplace) b⟩

end Memory

end Framework
