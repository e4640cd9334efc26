import Mathlib.Algebra.Order.BigOperators.Group.List
import Transit.Proof.ListText

/-!
# Items written with `:` and `;`, and what the client reads of them

The searches and the operation requests are answered with items whose fields
are joined with `:`, the items with `;`. The client's list viewer cuts them
apart again, each in a copy of 1024 bytes.

* `shownItems_eq_iff`: it shows the rows the server wrote exactly when each of
  them is a `CleanItem`, and the last does not end in a line end.
-/

namespace Transit

open Framework

/-- The text of an item. -/
def itemText (row : List Str) : Str := [itemSep].intercalate row

/-- The text of items behind one another. -/
def listText (rows : List (List Str)) : Str := [listSep].intercalate (rows.map itemText)

/-- An item that is read as it was written. -/
structure CleanItem (row : List Str) : Prop where
  fields : ∀ f ∈ row.take 3, itemSep ∉ f
  item : ∀ f ∈ row, listSep ∉ f
  fits : (itemText row).length ≤ 1023

/-- What the list viewer shows of a response with `n` labels: the fields of every item. -/
def shownItems (n : Nat) (response : Str) : List (List Str) :=
  (listFields (responseHeader response).payload).map (·.take n)

/-- A response that holds the items of these rows, and nothing else. -/
structure Lists (packet : Str) (rows : List (List Str)) (response : Str) : Prop where
  text : response = header packet .ok ++ listText rows ++ [packetTerm]
  room : (header packet .ok ++ listText rows).length + 2 ≤ maxPacketSize

theorem itemText_three (a b c : Str) : itemText [a, b, c] = a ++ [itemSep] ++ b ++ [itemSep] ++ c := by
  simp [itemText, List.intercalate]

theorem itemText_four (a b c d : Str) :
    itemText [a, b, c, d] = a ++ [itemSep] ++ b ++ [itemSep] ++ c ++ [itemSep] ++ d := by
  simp [itemText, List.intercalate]

/-! ## Lengths -/

theorem length_itemText_take_le (n : Nat) (row : List Str) :
    (itemText (row.take n)).length ≤ (itemText row).length := by
  unfold itemText
  cases n with
  | zero => exact Nat.zero_le _
  | succ n =>
    cases row with
    | nil => exact Nat.le_refl _
    | cons f fs =>
      rw [List.take_succ_cons, intercalate_cons_eq_flatMap, intercalate_cons_eq_flatMap, List.length_append,
        List.length_append]
      exact Nat.add_le_add_left ((List.take_sublist n fs).flatMap (itemSep :: ·)).length_le _

theorem itemText_itemFields (item : Str) : itemText (itemFields item) = safeStrcpy 1024 item :=
  intercalate_cutHead 3 _

/-- The fields shown of an item are not longer than the item. -/
theorem length_shown_le (n : Nat) (item : Str) :
    (itemText ((itemFields item).take n)).length ≤ item.length := by
  refine Nat.le_trans (length_itemText_take_le n _) ?_
  rw [itemText_itemFields]
  exact List.length_take_le' ..

theorem subset_itemText {row : List Str} {f : Str} (h : f ∈ row) : f ⊆ itemText row := by
  obtain ⟨g, gs, rfl⟩ := List.exists_cons_of_ne_nil (List.ne_nil_of_mem h)
  unfold itemText
  rw [intercalate_cons_eq_flatMap]
  rcases List.mem_cons.mp h with rfl | h
  · exact List.subset_append_left _ _
  · intro b hb
    exact List.mem_append_right _ (List.mem_flatMap.mpr ⟨f, h, List.mem_cons_of_mem _ hb⟩)

/-- Items of the length of what is shown of them were clean. -/
theorem cleanItem_of_length {n : Nat} {t : Str} (ht : listSep ∉ t)
    (h : t.length ≤ (itemText ((itemFields t).take n)).length) : CleanItem ((itemFields t).take n) := by
  have hle : (itemText ((itemFields t).take n)).length ≤ (safeStrcpy 1024 t).length := by
    rw [← itemText_itemFields]
    exact length_itemText_take_le n _
  have hcopy : (safeStrcpy 1024 t).length ≤ 1023 := List.length_take_le ..
  have htext : safeStrcpy 1024 t = t := List.take_of_length_le (by omega)
  refine ⟨fun f hf => ?_, fun f hf hm => ?_, by omega⟩
  · rw [List.take_take] at hf
    exact not_mem_cutHead 3 _ f ((List.take_sublist_take_left (Nat.min_le_left 3 n)).subset hf)
  · have hsub := subset_itemText (List.mem_of_mem_take hf)
    rw [itemText_itemFields, htext] at hsub
    exact ht (hsub hm)

theorem length_listText {rows : List (List Str)} (hne : rows ≠ []) :
    (listText rows).length + 1 = (rows.map fun row => (itemText row).length + 1).sum := by
  obtain ⟨row, rows, rfl⟩ := List.exists_cons_of_ne_nil hne
  unfold listText
  rw [List.map_cons, intercalate_cons_eq_flatMap, List.length_append, List.map_cons, List.sum_cons,
    List.length_flatMap, List.map_map]
  simp only [Function.comp_def, List.length_cons]
  omega

/-! ## Reading -/

variable {rows : List (List Str)} {n : Nat}

/-- A payload that is shown as the rows and is no longer than their text: all
its items are clean. -/
theorem clean_of_shown {payload : Str} (hlen : payload.length ≤ (listText rows).length)
    (h : (tokens listSep payload).map (fun t => (itemFields t).take n) = rows) :
    payload.length = (listText rows).length ∧ ∀ row ∈ rows, CleanItem row := by
  by_cases hne : rows = []
  · subst hne
    have hpayload : payload.length ≤ 0 := hlen
    exact ⟨Nat.le_antisymm hlen (Nat.zero_le _), List.forall_mem_nil _⟩
  have hrows := length_listText hne
  have htokens := sum_length_tokens_le (c := listSep) payload
  have hle : ∀ t ∈ tokens listSep payload, (itemText ((itemFields t).take n)).length + 1 ≤ t.length + 1 :=
    fun t _ => Nat.succ_le_succ (length_shown_le n t)
  have hsum : (rows.map fun row => (itemText row).length + 1).sum =
      ((tokens listSep payload).map fun t => (itemText ((itemFields t).take n)).length + 1).sum := by
    rw [← h, List.map_map]
    rfl
  have hsumLe : (rows.map fun row => (itemText row).length + 1).sum ≤
      ((tokens listSep payload).map (·.length + 1)).sum := hsum ▸ List.sum_le_sum hle
  refine ⟨by omega, fun row hrow => ?_⟩
  rw [← h] at hrow
  obtain ⟨t, ht, rfl⟩ := List.mem_map.mp hrow
  refine cleanItem_of_length (not_mem_of_mem_tokens ht) (Nat.le_of_not_lt fun hlt => ?_)
  -- one item shorter than its token leaves the rows shorter than the payload
  have hsumLt : (rows.map fun row => (itemText row).length + 1).sum <
      ((tokens listSep payload).map (·.length + 1)).sum :=
    hsum ▸ List.sum_lt_sum _ _ hle ⟨t, ht, Nat.succ_lt_succ hlt⟩
  omega

/-- Clean items are shown as they are. -/
theorem shown_of_clean (hn : n ≤ 4) (hcount : ∀ row ∈ rows, row.length = n ∧ 2 ≤ n)
    (h : ∀ row ∈ rows, CleanItem row) :
    (tokens listSep (listText rows)).map (fun t => (itemFields t).take n) = rows := by
  have hne : ∀ row ∈ rows, row ≠ [] := by
    rintro row hrow rfl
    have hlen := hcount [] hrow
    rw [List.length_nil] at hlen
    omega
  have htokens : tokens listSep (listText rows) = rows.map itemText := by
    refine tokens_intercalate (fun t ht => ?_) (fun t ht => ?_)
    · obtain ⟨row, hrow, rfl⟩ := List.mem_map.mp ht
      exact not_mem_intercalate (by decide) (h row hrow).item
    · obtain ⟨row, hrow, rfl⟩ := List.mem_map.mp ht
      obtain ⟨hlen, h2⟩ := hcount row hrow
      match row with
      | [] => simp only [List.length_nil] at hlen; omega
      | [_] => simp only [List.length_singleton] at hlen; omega
      | f :: g :: gs =>
        unfold itemText
        rw [List.intercalate_cons_cons]
        simp
  rw [htokens, List.map_map]
  refine (List.map_congr_left fun row hrow => ?_).trans (List.map_id rows)
  obtain ⟨hlen, -⟩ := hcount row hrow
  have hclean := h row hrow
  show (cutHead itemSep 3 (safeStrcpy 1024 (itemText row))).take n = row
  rw [show safeStrcpy 1024 (itemText row) = itemText row from snprintf_of_le hclean.fits, itemText,
    cutHead_intercalate hclean.fields (hne row hrow) (by omega)]
  exact List.take_of_length_le (by omega)

/-- The list viewer shows the rows of a response as they were written exactly
when their items are clean and the payload does not end in a line end. -/
theorem shownItems_eq_iff {packet : Str} (hp : packet ∈ packetTypes) (hn : n ≤ 4)
    (hcount : ∀ row ∈ rows, row.length = n ∧ 2 ≤ n)
    (hlen : (header packet .ok ++ listText rows).length + 2 ≤ maxPacketSize) :
    shownItems n (header packet .ok ++ listText rows ++ [packetTerm]) = rows ↔
      (∀ row ∈ rows, CleanItem row) ∧ stripNewline (listText rows) = listText rows := by
  have hstrip := length_stripNewline_le (listText rows)
  have hcopy : safeStrcpy maxPacketSize (stripNewline (listText rows)) = stripNewline (listText rows) :=
    snprintf_of_le (by rw [List.length_append] at hlen; omega)
  unfold shownItems listFields
  rw [responseHeader_body hp hlen, hcopy, List.map_map]
  constructor
  · intro h
    obtain ⟨heq, hclean⟩ := clean_of_shown hstrip h
    exact ⟨hclean, (List.rdropWhile_prefix _ _).eq_of_length heq⟩
  · rintro ⟨hclean, hself⟩
    rw [hself]
    exact shown_of_clean hn hcount hclean

end Transit
