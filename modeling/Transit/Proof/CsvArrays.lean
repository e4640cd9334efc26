import Transit.Common.CsvArrays
import Transit.Proof.CsvLines

/-!
# `csv_parse_line` in its arrays

* `csvLoopArrays_eq`: the loop over the arrays stays inside them and leaves there
  what `csvLoop` finds.
* `csvParseLineArrays_segments`: these are the segments between the commas that
  have an even number of quotes before them.
-/

namespace Transit

open Framework

variable {n : Nat}

/-! ## Trimming in place -/

theorem pullFront_holds {a : FixedArray Byte n} {s : Str} (h : a.Holds 0 s) {k : Nat} (hk : k ≤ s.length) :
    ∃ a', pullFront a k = some a' ∧ a'.Holds 0 (s.drop k) := by
  obtain ⟨a', hmove, ha'⟩ := h.move_front hk
  refine ⟨a', ?_, ha'⟩
  unfold pullFront
  rw [h.scan_stop hk, Option.bind_some]
  exact hmove

/-- The blanks in front are taken off. -/
theorem skipBlanks_holds {a : FixedArray Byte n} {s : Str} (h : a.Holds 0 s) :
    ∃ a', ((a.scan (fun b => decide (b ≠ 0) && isspace b) 0).bind fun start =>
      if start ≠ 0 then pullFront a start else some a) = some a' ∧ a'.Holds 0 (s.dropWhile isspace) := by
  have hspace : (fun b : Byte => decide (b ≠ 0) && isspace b) = isspace := by
    funext b
    by_cases hb : b = 0
    · rw [hb]; rfl
    · simp [hb]
  have hskip : s.drop (s.takeWhile isspace).length = s.dropWhile isspace :=
    (congrArg (List.drop _) List.takeWhile_append_dropWhile.symm).trans List.drop_left
  rw [hspace, h.scan_eq rfl (Nat.zero_le _), List.drop_zero, Nat.zero_add, Option.bind_some, ← hskip]
  by_cases hzero : (s.takeWhile isspace).length = 0
  · rw [if_neg (not_not_intro hzero), hzero]
    exact ⟨a, rfl, h⟩
  · rw [if_pos hzero]
    exact pullFront_holds h (List.takeWhile_prefix _).length_le

/-- The byte order mark is taken off. -/
theorem dropMark_holds {a : FixedArray Byte n} {s : Str} (h : a.Holds 0 s) :
    ∃ a', ((a.matchesAt 0 bom).bind fun marked => if marked then pullFront a 3 else some a) = some a' ∧
      a'.Holds 0 (if bom.isPrefixOf s then s.drop 3 else s) := by
  rw [h.matchesAt_eq (show (0 : Byte) ∉ bom by decide) (Nat.zero_le _), List.drop_zero, Option.bind_some]
  by_cases hbom : bom.isPrefixOf s = true
  · rw [if_pos hbom, if_pos hbom]
    exact pullFront_holds h (List.isPrefixOf_iff_prefix.mp hbom).length_le
  · rw [if_neg hbom, if_neg hbom]
    exact ⟨a, rfl, h⟩

/-- The blanks at the end are taken off, if there is anything left. -/
theorem trimEnd_holds {a : FixedArray Byte n} {s : Str} (h : a.Holds 0 s) :
    ∃ a', ((a.read 0).bind fun first =>
      if first = 0 then some a
      else (a.scan (fun b => decide (b ≠ 0)) 0).bind fun stop => a.clearBack isspace 0 stop) = some a' ∧
      a'.Holds 0 (s.rdropWhile isspace) := by
  obtain ⟨hs, rest, hrest⟩ := id h
  cases s with
  | nil =>
    have hread : a.read 0 = some 0 := FixedArray.read_of_eq (s := []) hrest
    rw [hread, Option.bind_some, if_pos rfl]
    exact ⟨a, rfl, h⟩
  | cons b s =>
    have hb : b ≠ 0 := fun hb => hs (hb ▸ List.mem_cons_self ..)
    have hread : a.read 0 = some b := FixedArray.read_of_eq (s := []) hrest
    rw [hread, Option.bind_some, if_neg hb, h.scan_stop (Nat.zero_le _), Option.bind_some]
    exact h.clearBack_eq isspace

/-- `str_trim` stays inside the array, and trims the string in it. -/
theorem strTrimArray_holds {a : FixedArray Byte n} {s : Str} (h : a.Holds 0 s) :
    ∃ a', strTrimArray a = some a' ∧ a'.Holds 0 (strTrim s) := by
  obtain ⟨a₁, hskip, h₁⟩ := skipBlanks_holds h
  obtain ⟨a₂, hmark, h₂⟩ := dropMark_holds h₁
  obtain ⟨a₃, hend, h₃⟩ := trimEnd_holds h₂
  refine ⟨a₃, ?_, h₃⟩
  unfold strTrimArray
  rw [← Option.bind_assoc, hskip, Option.bind_some, ← Option.bind_assoc, hmark, Option.bind_some]
  exact hend

/-! ## The loop -/

/-- The arrays hold `done`, and nothing behind it. -/
def ClosedFields (row : CsvRowArrays) (done : List Str) : Prop :=
  ∃ closed, List.Forall₂ (FixedArray.Holds 0) closed done ∧
    row.fields.val = closed ++ List.replicate (csvMaxFields - done.length) (.fill csvMaxFieldLen 0)

/-- The arrays while `cur` is read into the field behind `done`. -/
structure ReadingField (row : CsvRowArrays) (done : List Str) (cur : Str) : Prop where
  room : done.length < csvMaxFields
  short : cur.length < csvMaxFieldLen
  free : 0 ∉ cur
  arrays : ∃ closed f rest, List.Forall₂ (FixedArray.Holds 0) closed done ∧ f.val = cur ++ rest ∧
    row.fields.val = closed ++ f :: List.replicate (csvMaxFields - done.length - 1) (.fill csvMaxFieldLen 0)

/-- The arrays hold the fields of the row, and nothing behind them. -/
structure HoldsRow (row : CsvRowArrays) (fields : List Str) : Prop where
  count : row.count = fields.length
  arrays : List.Forall₂ (FixedArray.Holds 0) row.fields.val
    (fields ++ List.replicate (csvMaxFields - fields.length) [])

variable {row : CsvRowArrays} {done : List Str} {cur : Str}

theorem closedFields_cleared : ClosedFields .cleared [] := ⟨[], .nil, rfl⟩

/-- The next field is empty before it is read. -/
theorem ClosedFields.reading (h : ClosedFields row done) (hroom : done.length < csvMaxFields) :
    ReadingField row done [] := by
  obtain ⟨closed, hclosed, hrow⟩ := h
  refine ⟨hroom, by decide, List.not_mem_nil, closed, .fill csvMaxFieldLen 0, List.replicate csvMaxFieldLen 0, hclosed,
    rfl, ?_⟩
  rw [hrow, ← List.replicate_succ]
  congr 2
  omega

theorem ClosedFields.holdsRow (h : ClosedFields row done) : HoldsRow { row with count := done.length } done := by
  obtain ⟨closed, hclosed, hrow⟩ := h
  have hempty : (FixedArray.fill csvMaxFieldLen (0 : Byte)).Holds 0 [] :=
    ⟨List.not_mem_nil, List.replicate (csvMaxFieldLen - 1) 0, rfl⟩
  refine ⟨rfl, ?_⟩
  show List.Forall₂ _ row.fields.val _
  rw [hrow]
  refine List.rel_append hclosed ?_
  generalize csvMaxFields - done.length = k
  induction k with
  | zero => exact .nil
  | succ k ih => exact .cons hempty ih

/-- The array that is read into has room for one byte more. -/
theorem ReadingField.next (h : ReadingField row done cur) : ∃ closed f b rest,
    List.Forall₂ (FixedArray.Holds 0) closed done ∧ closed.length = done.length ∧ f.val = cur ++ b :: rest ∧
    row.fields.val = closed ++ f :: List.replicate (csvMaxFields - done.length - 1) (.fill csvMaxFieldLen 0) := by
  obtain ⟨closed, f, rest, hclosed, hf, hrow⟩ := h.arrays
  have hshort := h.short
  have hlen := f.2
  rw [hf, List.length_append] at hlen
  obtain ⟨b, rest, rfl⟩ := List.exists_cons_of_ne_nil (List.ne_nil_of_length_pos (show 0 < rest.length by omega))
  exact ⟨closed, f, b, rest, hclosed, hclosed.length_eq, hf, hrow⟩

/-- A byte is written behind what is read of the field. -/
theorem ReadingField.put (h : ReadingField row done cur) {c : Byte} (hc : c ≠ 0)
    (hroom : cur.length + 1 < csvMaxFieldLen) :
    ∃ row', row.put done.length cur.length c = some row' ∧ ReadingField row' done (cur ++ [c]) := by
  obtain ⟨closed, f, b, rest, hclosed, hlen, hf, hrow⟩ := h.next
  obtain ⟨f', hwrite, hf'⟩ := FixedArray.write_of_eq hf c
  obtain ⟨fields, hupdate, hfields⟩ := FixedArray.update_of_eq hrow (f := fun f => f.write cur.length c) hwrite
  refine ⟨{ row with fields := fields }, ?_, h.room, ?_, ?_, closed, f', rest, hclosed, ?_, hfields⟩
  · unfold CsvRowArrays.put
    rw [← hlen, hupdate, Option.map_some]
  · rw [List.length_append, List.length_singleton]
    exact hroom
  · rw [List.mem_append, List.mem_singleton, not_or]
    exact ⟨h.free, Ne.symm hc⟩
  · rw [hf', List.append_assoc, List.singleton_append]

/-- The field is ended and trimmed. -/
theorem ReadingField.close (h : ReadingField row done cur) :
    ∃ row', row.close done.length cur.length = some row' ∧ ClosedFields row' (done ++ [strTrim cur]) := by
  obtain ⟨closed, f, b, rest, hclosed, hlen, hf, hrow⟩ := h.next
  obtain ⟨ended, hended, hholds⟩ := FixedArray.holds_of_write hf h.free
  obtain ⟨f', htrim, hf'⟩ := strTrimArray_holds hholds
  have hstep : (f.write cur.length 0).bind strTrimArray = some f' := by rw [hended, Option.bind_some, htrim]
  obtain ⟨fields, hupdate, hfields⟩ :=
    FixedArray.update_of_eq hrow (f := fun f => (f.write cur.length 0).bind strTrimArray) hstep
  refine ⟨{ row with fields := fields }, ?_, closed ++ [f'], List.rel_append hclosed (.cons hf' .nil), ?_⟩
  · unfold CsvRowArrays.close
    rw [← hlen, hupdate, Option.map_some]
  · show fields.val = _
    rw [hfields, List.append_assoc, List.singleton_append, List.length_append, List.length_singleton, Nat.sub_add_eq]

/-- The loop stays inside the arrays and leaves there what `csvLoop` finds in the line. -/
theorem csvLoopArrays_eq {line : List Byte} (hline : 0 ∈ line) (h : ReadingField row done cur) (inQuotes : Bool) :
    ∃ row', csvLoopArrays line row done.length cur.length inQuotes = some (row', true) ∧
      HoldsRow row' (csvLoop (cstr line) done cur inQuotes) := by
  induction line generalizing row done cur inQuotes with
  | nil => exact absurd hline List.not_mem_nil
  | cons c line ih =>
    have hclose := h.close
    obtain ⟨closed, hclosed, hfields⟩ := hclose
    have hlen : (done ++ [strTrim cur]).length = done.length + 1 := List.length_append
    unfold csvLoopArrays
    by_cases hend : c = 0 ∨ c = 10 ∨ c = 13
    · have hlast : csvLoop (cstr (c :: line)) done cur inQuotes = done ++ [strTrim cur] := by
        by_cases hzero : c = 0
        · rw [hzero]
          rfl
        · rw [cstr, List.takeWhile_cons_of_pos (by simpa using hzero), csvLoop, if_pos (hend.resolve_left hzero)]
      rw [if_pos hend, hclosed, hlast, Option.map_some]
      exact ⟨_, rfl, hlen ▸ hfields.holdsRow⟩
    obtain ⟨hzero, hend⟩ := not_or.mp hend
    have hrest := (List.mem_cons.mp hline).resolve_left (Ne.symm hzero)
    have htext : cstr (c :: line) = c :: cstr line := List.takeWhile_cons_of_pos (by simpa using hzero)
    rw [if_neg (not_or.mpr ⟨hzero, hend⟩), htext, csvLoop, if_neg hend]
    by_cases hquote : c = 34
    · rw [if_pos hquote, if_pos hquote]
      exact ih hrest h _
    rw [if_neg hquote, if_neg hquote]
    by_cases hsep : c = 44 ∧ (!inQuotes) = true
    · rw [if_pos hsep, if_pos hsep, hclosed, Option.bind_some]
      dsimp only
      rw [hlen]
      by_cases hfull : done.length + 1 ≥ csvMaxFields
      · rw [if_pos hfull, if_pos hfull]
        have hcount : csvMaxFields = (done ++ [strTrim cur]).length := by
          have hroom := h.room
          omega
        exact ⟨_, rfl, hcount ▸ hfields.holdsRow⟩
      · rw [if_neg hfull, if_neg hfull, ← hlen]
        exact ih hrest (hfields.reading (by omega)) inQuotes
    · rw [if_neg hsep, if_neg hsep]
      by_cases hroom : cur.length + 1 < csvMaxFieldLen
      · obtain ⟨row', hput, hreading⟩ := h.put hzero hroom
        rw [if_pos hroom, if_pos hroom, hput, Option.bind_some]
        have hnext := ih hrest hreading inQuotes
        rw [List.length_append, List.length_singleton] at hnext
        exact hnext
      · rw [if_neg hroom, if_neg hroom]
        exact ih hrest h inQuotes

/-- Whatever the row holds before. -/
theorem csvParseLineArrays_holds {line : List Byte} (hline : 0 ∈ line) (row : CsvRowArrays) :
    ∃ row', csvParseLineArrays line row = some (row', true) ∧ HoldsRow row' (csvParseLine (cstr line)).fields :=
  csvLoopArrays_eq hline (closedFields_cleared.reading (by decide)) false

/-- Each array holds its field, or nothing where there is none. -/
theorem HoldsRow.field {fields : List Str} (h : HoldsRow row fields) {i : Nat} {f : FixedArray Byte csvMaxFieldLen}
    (hf : row.fields.val[i]? = some f) : f.Holds 0 (fields[i]?.getD []) := by
  obtain ⟨hi, rfl⟩ := List.getElem?_eq_some_iff.mp hf
  have hget := h.arrays.get hi (h.arrays.length_eq ▸ hi)
  rw [List.get_eq_getElem, List.get_eq_getElem] at hget
  by_cases hlt : i < fields.length
  · rw [List.getElem_append_left hlt] at hget
    rw [List.getElem?_eq_getElem hlt]
    exact hget
  · rw [List.getElem_append_right (Nat.le_of_not_lt hlt), List.getElem_replicate] at hget
    rw [List.getElem?_eq_none (Nat.le_of_not_lt hlt)]
    exact hget

/-! ## The segments of a line -/

/-- The commas with an even number of quotes before them. -/
def openCommas (text : Str) : Nat := text.zipIdx.countP (isOpenSep 44 34 text)

/-- What the arrays hold of a line, by its segments. -/
structure HoldsSegments (row : CsvRowArrays) (line : List Byte) : Prop where
  count : row.count = min csvMaxFields (1 + openCommas (lineText line))
  /-- A field is its segment without the quotes, cut and then trimmed. -/
  field : ∀ i f, row.fields.val[i]? = some f → i < row.count → ∃ segment,
    (segments 44 34 (lineText line))[i]? = some segment ∧ f.Holds 0 (strTrim ((segment.filter (· ≠ 34)).take 255))
  later : ∀ i f, row.fields.val[i]? = some f → row.count ≤ i → f.Holds 0 []

theorem lineColumns_segments (line : List Byte) : (lineColumns line).fields =
    ((segments 44 34 (lineText line)).take csvMaxFields).map fun segment =>
      strTrim ((segment.filter (· ≠ 34)).take 255) := by
  unfold lineColumns
  dsimp only
  rw [cells_eq_segments (by decide), ← List.map_take, List.map_map]
  rfl

/-- Any line that ends in a NUL is read without leaving it or the arrays. -/
theorem csvParseLineArrays_segments (line : List Byte) (hline : 0 ∈ line) (row : CsvRowArrays) :
    ∃ row', csvParseLineArrays line row = some (row', true) ∧ HoldsSegments row' line := by
  obtain ⟨row', hparse, hrow⟩ := csvParseLineArrays_holds hline row
  rw [csvParseLine_cstr, lineColumns_segments] at hrow
  refine ⟨row', hparse, ?_, fun i f hf hi => ?_, fun i f hf hi => ?_⟩
  · rw [hrow.count, List.length_map, List.length_take, length_segments, Nat.add_comm]
    rfl
  · rw [hrow.count, List.length_map, List.length_take] at hi
    have hsegment := List.getElem?_eq_getElem (show i < (segments 44 34 (lineText line)).length by omega)
    have hholds := hrow.field hf
    rw [List.getElem?_map, List.getElem?_take_of_lt (by omega), hsegment] at hholds
    exact ⟨_, hsegment, hholds⟩
  · have hholds := hrow.field hf
    rw [List.getElem?_eq_none (by rw [← hrow.count]; exact hi)] at hholds
    exact hholds

theorem csvParseLineArrays_segments_quoted : ∃ row',
    csvParseLineArrays (utf8 "S, \"A,B\"\n" ++ [0]) .cleared = some (row', true) ∧
      HoldsSegments row' (utf8 "S, \"A,B\"\n" ++ [0]) :=
  csvParseLineArrays_segments (utf8 "S, \"A,B\"\n" ++ [0]) (by simp) .cleared

end Transit
