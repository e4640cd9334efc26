import Transit.Proof.ItemRows

/-!
# The loops that append items

The loops over the stops, the stations and the facilities append an item for
every record that matches, until one does not fit or there are enough of them.
`ItemLoop` says so of a loop, whatever the records and its conditions are;
`listed` are the records it lists.

* `ItemLoop.text_eq`: the loop writes the items of the records listed.
-/

namespace Transit

open Framework (intercalate_cons_eq_flatMap)

variable {α : Type}

theorem itemsFrom_zero (row : α → List Str) (xs : List α) :
    itemsFrom 0 (xs.map fun x => itemText (row x)) = listText (xs.map row) := by
  unfold listText
  rw [List.map_map]
  rfl

/-- The records of a list that a loop appends, `used` bytes and `count` items being there. -/
def listed (isMatch : α → Bool) (full : Nat → Nat → α → Bool) (row : α → List Str) :
    Nat → Nat → List α → List α
  | _, _, [] => []
  | used, count, x :: xs =>
    if isMatch x then
      if full used count x then []
      else
        x :: listed isMatch full row (used + (if count > 0 then 1 else 0) + (itemText (row x)).length)
          (count + 1) xs
    else listed isMatch full row used count xs

/-- One round of a loop over records. -/
structure ItemLoop (isMatch : α → Bool) (full : Nat → Nat → α → Bool) (row : α → List Str) (size : Nat)
    (loop : List α → Str → Nat → Str × Nat) : Prop where
  nil : ∀ response count, loop [] response count = (response, count)
  cons : ∀ x xs response count, loop (x :: xs) response count =
    if isMatch x then
      if full response.length count x then (response, count)
      else
        loop xs (strAppendf (if count > 0 then (strAppend response size [listSep]).1 else response) size
          (itemText (row x))).1 (count + 1)
    else loop xs response count

/-- The records listed are the first of those that match. -/
theorem listed_first {isMatch : α → Bool} {full : Nat → Nat → α → Bool} {row : α → List Str} {used count : Nat}
    {xs : List α} : listed isMatch full row used count xs <+: xs.filter isMatch := by
  induction xs generalizing used count with
  | nil => exact List.nil_prefix
  | cons x xs ih =>
    unfold listed
    by_cases hm : isMatch x = true
    · rw [if_pos hm, List.filter_cons_of_pos hm]
      by_cases hf : full used count x = true
      · rw [if_pos hf]
        exact List.nil_prefix
      · rw [if_neg hf, List.prefix_cons_inj]
        exact ih
    · rw [if_neg hm, List.filter_cons_of_neg hm]
      exact ih

theorem listed_subset {isMatch : α → Bool} {full : Nat → Nat → α → Bool} {row : α → List Str} {used count : Nat}
    {xs : List α} : ∀ x ∈ listed isMatch full row used count xs, x ∈ xs :=
  fun _ hx => (List.mem_filter.mp (listed_first.subset hx)).1

variable {isMatch : α → Bool} {full : Nat → Nat → α → Bool} {row : α → List Str} {size : Nat}
  {loop : List α → Str → Nat → Str × Nat}

/-- The match behind the records listed is the one that was too much. -/
theorem full_of_listed {xs : List α} {used count : Nat} {x : α}
    (hx : (xs.filter isMatch)[(listed isMatch full row used count xs).length]? = some x) :
    full (used + (itemsFrom count ((listed isMatch full row used count xs).map fun x => itemText (row x))).length)
      (count + (listed isMatch full row used count xs).length) x = true := by
  induction xs generalizing used count with
  | nil => cases hx
  | cons y xs ih =>
    unfold listed at hx ⊢
    by_cases hm : isMatch y = true
    · rw [if_pos hm, List.filter_cons_of_pos hm] at hx
      rw [if_pos hm]
      by_cases hf : full used count y = true
      · rw [if_pos hf, List.length_nil, List.getElem?_cons_zero, Option.some_inj] at hx
        rw [if_pos hf, List.map_nil, itemsFrom_nil, List.length_nil, ← hx]
        exact hf
      · rw [if_neg hf, List.length_cons, List.getElem?_cons_succ] at hx
        have hsep : (if count > 0 then [listSep] else []).length = if count > 0 then 1 else 0 := by
          split <;> rfl
        have hused : ∀ rest : Str, used + ((if count > 0 then [listSep] else []) ++ itemText (row y) ++ rest).length =
            used + (if count > 0 then 1 else 0) + (itemText (row y)).length + rest.length := by
          intro rest
          rw [List.length_append, List.length_append, hsep]
          omega
        have hrest := ih hx
        rw [Nat.add_assoc count 1, Nat.add_comm 1] at hrest
        rw [if_neg hf, List.map_cons, itemsFrom_cons, hused, List.length_cons]
        exact hrest
    · rw [if_neg hm, List.filter_cons_of_neg hm] at hx
      rw [if_neg hm]
      exact ih hx

theorem length_listed_le {limit : Nat} (hfull : ∀ used count x, limit ≤ count → full used count x = true)
    {xs : List α} {used count : Nat} (hcount : count ≤ limit) :
    count + (listed isMatch full row used count xs).length ≤ limit := by
  induction xs generalizing used count with
  | nil => exact hcount
  | cons x xs ih =>
    unfold listed
    by_cases hm : isMatch x = true
    · rw [if_pos hm]
      by_cases hf : full used count x = true
      · rw [if_pos hf]
        exact hcount
      · have hlt : count < limit := by
          by_contra hge
          exact hf (hfull _ _ _ (Nat.le_of_not_lt hge))
        have hrest := @ih (used + (if count > 0 then 1 else 0) + (itemText (row x)).length) (count + 1) hlt
        rw [if_neg hf, List.length_cons]
        omega
    · rw [if_neg hm]
      exact ih hcount

/-- Where nothing but the count ends the loop, it lists as many as there may be.
`I` is what it keeps of the lengths. -/
theorem listed_eq_take {limit : Nat} {I : Nat → Nat → Prop} {xs : List α}
    (hfull : ∀ used count x, limit ≤ count → full used count x = true)
    (hstep : ∀ used count, I used count → count < limit → ∀ x, full used count x = false ∧
      I (used + (if count > 0 then 1 else 0) + (itemText (row x)).length) (count + 1))
    {used count : Nat} (hI : I used count) :
    listed isMatch full row used count xs = (xs.filter isMatch).take (limit - count) := by
  induction xs generalizing used count with
  | nil => exact List.take_nil.symm
  | cons x xs ih =>
    unfold listed
    by_cases hm : isMatch x = true
    · rw [if_pos hm, List.filter_cons_of_pos hm]
      by_cases hc : count < limit
      · obtain ⟨hf, hnext⟩ := hstep _ _ hI hc x
        rw [if_neg (by rw [hf]; decide), ih hnext, show limit - count = limit - (count + 1) + 1 by omega,
          List.take_succ_cons]
      · rw [if_pos (hfull _ _ _ (Nat.le_of_not_lt hc)), show limit - count = 0 by omega, List.take_zero]
    · rw [if_neg hm, List.filter_cons_of_neg hm]
      exact ih hI

/-- The loop appends the items of the records listed, and leaves room for the
line feed. `I` is what it keeps of the lengths so that an item fits. -/
theorem ItemLoop.text_eq (h : ItemLoop isMatch full row size loop) {I : Nat → Nat → Prop} {xs : List α}
    (hroom : ∀ used count, I used count → used + 2 ≤ size)
    (hfit : ∀ used count, I used count → ∀ x ∈ xs, full used count x = false →
      used + (itemText (row x)).length + 3 ≤ size ∧
        I (used + (if count > 0 then 1 else 0) + (itemText (row x)).length) (count + 1))
    {response : Str} {count : Nat} (hI : I response.length count) :
    loop xs response count =
      (response ++ itemsFrom count ((listed isMatch full row response.length count xs).map fun x => itemText (row x)),
        count + (listed isMatch full row response.length count xs).length) ∧
    (response ++ itemsFrom count ((listed isMatch full row response.length count xs).map fun x =>
      itemText (row x))).length + 2 ≤ size := by
  induction xs generalizing response count with
  | nil =>
    have hr := hroom _ _ hI
    rw [h.nil, listed, List.map_nil, itemsFrom_nil, List.append_nil]
    exact ⟨rfl, hr⟩
  | cons x xs ih =>
    have hfit' := fun used count hI y hy => hfit used count hI y (List.mem_cons_of_mem x hy)
    rw [h.cons, listed]
    by_cases hm : isMatch x = true
    · rw [if_pos hm, if_pos hm]
      by_cases hf : full response.length count x = true
      · rw [if_pos hf, if_pos hf, List.map_nil, itemsFrom_nil, List.append_nil]
        exact ⟨rfl, hroom _ _ hI⟩
      · obtain ⟨hlen, hnext⟩ := hfit _ _ hI x (List.mem_cons_self ..) (by simpa using hf)
        have hsmall := sep_le_one count
        have happ : (response ++ (if count > 0 then [listSep] else []) ++ itemText (row x)).length =
            response.length + (if count > 0 then 1 else 0) + (itemText (row x)).length := by
          rw [List.length_append, List.length_append, length_sep]
        have hrest := ih hfit' (happ ▸ hnext)
        rw [if_neg hf, if_neg hf, strAppend_sep (by omega),
          strAppendf_of_lt (by rw [List.length_append, length_sep]; omega), hrest.1,
          List.map_cons, itemsFrom_cons, happ]
        refine ⟨Prod.ext ?_ ?_, ?_⟩
        · simp only [List.append_assoc]
        · simp only [List.length_cons]
          omega
        · have hroom' := hrest.2
          rw [happ] at hroom'
          simpa only [List.append_assoc] using hroom'
    · rw [if_neg hm, if_neg hm]
      exact ih hfit' hI

/-- The loop behind the header of a response: what it has written, and how many items. -/
structure Listing (packet : Str) (rows : List (List Str)) (st : Str × Nat) : Prop where
  text : st = (header packet .ok ++ listText rows, rows.length)
  room : (header packet .ok ++ listText rows).length + 2 ≤ maxPacketSize

theorem ItemLoop.listing {packet : Str} (h : ItemLoop isMatch full row maxPacketSize loop)
    (hp : packet ∈ packetTypes) (xs : List α) {I : Nat → Nat → Prop}
    (hroom : ∀ used count, I used count → used + 2 ≤ maxPacketSize)
    (hfit : ∀ used count, I used count → ∀ x ∈ xs, full used count x = false →
      used + (itemText (row x)).length + 3 ≤ maxPacketSize ∧
        I (used + (if count > 0 then 1 else 0) + (itemText (row x)).length) (count + 1))
    (hI : I (header packet .ok).length 0) :
    Listing packet ((listed isMatch full row (header packet .ok).length 0 xs).map row)
      (loop xs (snprintf maxPacketSize (header packet .ok)) 0) := by
  have hsize : maxPacketSize = 32768 := rfl
  have hheader := (header_spec hp .ok).2
  obtain ⟨hloop, hlen⟩ := h.text_eq hroom hfit hI
  rw [itemsFrom_zero] at hloop hlen
  rw [snprintf_of_le (by omega), hloop, Nat.zero_add]
  exact ⟨by rw [List.length_map], hlen⟩

/-- The end of a handler that lists: it has found something. -/
theorem Listing.lists {packet : Str} {rows : List (List Str)} {st : Str × Nat} (h : Listing packet rows st)
    (hok : (if st.2 = 0 then notFoundReply maxPacketSize packet
      else ⟨.ok, (strAppend st.1 maxPacketSize [packetTerm]).1⟩ : Reply).code = .ok) :
    Lists packet rows (if st.2 = 0 then notFoundReply maxPacketSize packet
      else ⟨.ok, (strAppend st.1 maxPacketSize [packetTerm]).1⟩ : Reply).response := by
  have hroom := h.room
  by_cases hnone : st.2 = 0
  · rw [if_pos hnone] at hok
    cases hok
  · rw [if_neg hnone]
    refine ⟨?_, hroom⟩
    rw [h.text, strAppend_of_le (by rw [List.length_singleton]; omega)]

end Transit
